import Sake.FsBacklog
import Sake.Proofs.ZncLog

namespace Sake.Proofs.LogLines
open Sake.FsStore Sake.ZncLog List

/-- A line the scanner gives back as it is. -/
structure Fits (line : List Char) : Prop where
  noNewline : '\n' ∉ line
  noReturn : '\r' ∉ line
  short : byteLen line < maxScanTokenSize

theorem byteLen_append : byteLen (a ++ b) = byteLen a + byteLen b := by simp [byteLen]

theorem dropBytes_byteLen : dropBytes (byteLen p) (p ++ s) = s := by
  induction p with
  | nil => cases s <;> rfl
  | cons c p ih =>
    have hc := Char.utf8Size_pos c
    have hlen : byteLen (c :: p) = c.utf8Size + byteLen p := by simp [byteLen]
    obtain ⟨n,hn⟩ : ∃ n, c.utf8Size + byteLen p = n + 1 := ⟨c.utf8Size + byteLen p - 1,by omega⟩
    have hrest : n + 1 - c.utf8Size = byteLen p := by omega
    rw [hlen,hn,cons_append,dropBytes,hrest,ih]

theorem pieces_line (h : '\n' ∉ line) (rest : List Char) :
    Strings.pieces (· == '\n') (line ++ '\n' :: rest) = line :: Strings.pieces (· == '\n') rest := by
  induction line with
  | nil => simp [Strings.pieces]
  | cons c line ih =>
    obtain ⟨hc,hline⟩ := not_or.mp (mt mem_cons.mpr h)
    have hc' : ¬ c = '\n' := fun h => hc h.symm
    simp [Strings.pieces,hc',ih hline]

theorem pieces_lines {lines : List (List Char)} (h : ∀ line ∈ lines, '\n' ∉ line) :
    Strings.pieces (· == '\n') (lines.flatMap (· ++ ['\n'])) = lines ++ [[]] := by
  induction lines with
  | nil => rfl
  | cons line lines ih =>
    obtain ⟨hline,hlines⟩ := forall_mem_cons.mp h
    rw [flatMap_cons,append_assoc,singleton_append,pieces_line hline,ih hlines,cons_append]

theorem dropCR_of_fits (h : Fits line) : dropCR line = line := by
  rw [dropCR,if_neg]
  intro hlast
  exact h.noReturn (mem_of_getLast? hlast)

theorem scan_flatMap {lines : List (List Char)} (h : ∀ line ∈ lines, Fits line) :
    scan (lines.flatMap (· ++ ['\n'])) = ⟨lines.map String.ofList,false⟩ := by
  have hraw : rawLines (lines.flatMap (· ++ ['\n'])) = lines := by
    simp [rawLines,pieces_lines fun line hline => (h line hline).noNewline]
  have hshort : (lines.takeWhile fun line => byteLen line < maxScanTokenSize) = lines :=
    takeWhile_eq_self_iff.mpr fun line hline => decide_eq_true (h line hline).short
  have hmap : (lines.map fun line => String.ofList (dropCR line)) = lines.map String.ofList :=
    map_congr_left fun line hline => by rw [dropCR_of_fits (h line hline)]
  simp [scan,hraw,hshort,hmap]

theorem fileBytes_eq : fileBytes lines = (lines.map fun line => line.text.toList).flatMap (· ++ ['\n']) := by
  rw [flatMap_map]
  rfl

theorem fileBytes_append : fileBytes (a ++ b) = fileBytes a ++ fileBytes b := flatMap_append

theorem scan_fileBytes (h : ∀ line ∈ lines, Fits line.text.toList) :
    scan (fileBytes lines) = ⟨lines.map Line.text,false⟩ := by
  rw [fileBytes_eq,scan_flatMap]
  · simp
  · intro cs hcs
    obtain ⟨line,hline,rfl⟩ := mem_map.mp hcs
    exact h line hline

/-- Reading on from the start of a line, or from the newline that ends one, skips the line. -/
theorem linesFrom_skip (hrest : rest = skipped ++ '\n' :: fileBytes lines) (hskip : Fits skipped)
    (h : ∀ line ∈ lines, Fits line.text.toList) :
    Logs.linesFrom (pre ++ rest) (byteLen pre) = ⟨lines.map Line.text,false⟩ := by
  have hscan : scan rest = ⟨String.ofList skipped :: lines.map Line.text,false⟩ := by
    have hrest' : rest = (skipped :: lines.map fun line => line.text.toList).flatMap (· ++ ['\n']) := by
      rw [hrest,flatMap_cons,fileBytes_eq,append_assoc,singleton_append]
    rw [hrest',scan_flatMap]
    · simp
    intro cs hcs
    rcases mem_cons.mp hcs with rfl | hcs
    · exact hskip
    · obtain ⟨line,hline,rfl⟩ := mem_map.mp hcs
      exact h line hline
  rw [Logs.linesFrom,Int.toNat_natCast,dropBytes_byteLen,hscan]
  rfl

theorem linesFrom_line {line : Line} (hline : Fits line.text.toList) (h : ∀ other ∈ lines, Fits other.text.toList) :
    Logs.linesFrom (fileBytes (before ++ [line] ++ lines)) (byteLen (fileBytes before)) =
      ⟨lines.map Line.text,false⟩ := by
  rw [append_assoc,fileBytes_append]
  refine linesFrom_skip ?_ hline h
  rw [fileBytes_append,fileBytes,flatMap_singleton,Line.bytes,append_assoc,singleton_append]

theorem linesFrom_end (h : ∀ line ∈ lines, Fits line.text.toList) :
    Logs.linesFrom (fileBytes (before ++ lines)) (byteLen (fileBytes before) - 1) = ⟨lines.map Line.text,false⟩ := by
  rcases eq_nil_or_concat before with rfl | ⟨init,last,rfl⟩
  · have hneg : ¬ (0 : Int) ≤ (byteLen (fileBytes [])) - 1 := by simp [fileBytes,byteLen]
    rw [Logs.linesFrom,if_neg hneg,nil_append,scan_fileBytes h]
  have hsplit : fileBytes (init.concat last) = (fileBytes init ++ last.text.toList) ++ ['\n'] := by
    rw [concat_eq_append,fileBytes_append,fileBytes,fileBytes,flatMap_singleton,Line.bytes,append_assoc]
  have hoff : ((byteLen (fileBytes (init.concat last))) : Int) - 1 =
      (byteLen (fileBytes init ++ last.text.toList)) := by
    have hone : byteLen ['\n'] = 1 := by decide
    rw [hsplit,byteLen_append]
    omega
  rw [hoff,fileBytes_append,hsplit,append_assoc]
  exact linesFrom_skip (nil_append _).symm ⟨not_mem_nil,not_mem_nil,by decide⟩ h

end Sake.Proofs.LogLines

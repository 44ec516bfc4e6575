import Sake.Time

namespace Sake.Proofs.Time
open Sake.Time Lib String Zone

theorem wall_mod_second (z : Zone) (t : Int) : z.wall t % second = t % second := by
  have h := z.offset_whole t
  unfold wall second at *
  omega

/-- Hours, minutes and seconds add up to the time of day, down to the second. -/
theorem clock_parts (w : Int) : (w % day / (3600 * second) * 3600 + w % (3600 * second) / (60 * second) * 60 +
      w % (60 * second) / second) * second = w % day - w % second := by
  unfold day second
  omega

theorem date_of_clock (z : Zone) (ref t : Int) : date z (dateOf z ref) (hourOf z t) (minuteOf z t) (secondOf z t) 0 =
      z.resolve (z.wall ref / day * day + z.wall t % day - t % second) := by
  have h := clock_parts (z.wall t)
  rw [wall_mod_second] at h
  simp [date,dateOf,hourOf,minuteOf,secondOf,Calendar.dayNumber_date,Int.add_zero,h,Int.add_sub_assoc]

theorem date_of_clock_self (z : Zone) (t : Int) : date z (dateOf z t) (hourOf z t) (minuteOf z t) (secondOf z t) 0 =
      z.resolve (z.wall t - t % second) := by
  rw [date_of_clock,Int.mul_comm,Int.mul_ediv_add_emod]

theorem hourOf_bounds (z : Zone) (t : Int) : 0 ≤ hourOf z t ∧ hourOf z t < 24 := by
  unfold hourOf day second
  omega

theorem minuteOf_bounds (z : Zone) (t : Int) : 0 ≤ minuteOf z t ∧ minuteOf z t < 60 := by
  unfold minuteOf second
  omega

theorem secondOf_bounds (z : Zone) (t : Int) : 0 ≤ secondOf z t ∧ secondOf z t < 60 := by
  unfold secondOf second
  omega

variable {a b : Int}

theorem padInt_two (h0 : 0 ≤ n) (h1 : n < 100) :
    (padInt 2 n).toList = [Nat.digitChar (n.natAbs / 10),Nat.digitChar (n.natAbs % 10)] := by
  have hall : ∀ k < 100, (pad 2 k).toList = [Nat.digitChar (k / 10),Nat.digitChar (k % 10)] := by decide
  rw [padInt,if_neg (Int.not_lt.mpr h0)]
  exact hall n.natAbs (by omega)

theorem pad_injective {a b : Nat} (h : pad width a = pad width b) : a = b := by
  have hval : ∀ n, Nat.ofDigitChars 10 (pad width n).toList 0 = n := by
    intro n
    simp only [pad,toList_ofList,Nat.ofDigitChars_append,Nat.ofDigitChars_replicate_zero]
    exact Nat.ofDigitChars_toDigits (by omega) (by omega)
  rw [← hval a,← hval b,h]

theorem pad_isDigit {n : Nat} (h : c ∈ (pad width n).toList) : c.isDigit = true := by
  simp only [pad,toList_ofList,List.mem_append,List.mem_replicate] at h
  rcases h with ⟨-,rfl⟩ | h
  · rfl
  · exact Nat.isDigit_of_mem_toDigits (by omega) (by omega) h

theorem pad_ne_signed {m n : Nat} : ("-" ++ pad width m).toList ≠ (pad width' n).toList := by
  intro h
  have hmem : '-' ∈ (pad width' n).toList := h ▸ by simp
  exact absurd (pad_isDigit hmem) (by decide)

theorem padInt_injective (h : (padInt width a).toList = (padInt width b).toList) : a = b := by
  simp only [padInt] at h
  by_cases ha : a < 0 <;> by_cases hb : b < 0 <;> simp only [ha,hb] at h
  · have := pad_injective (toList_injective (by simpa using h))
    omega
  · exact absurd h pad_ne_signed
  · exact absurd h.symm pad_ne_signed
  · have := pad_injective (toList_injective h)
    omega

/-- A year, with a sign if it is negative. -/
theorem year_injective (h : ((if a < 0 then "-" else "") ++ pad 4 a.natAbs).toList =
      ((if b < 0 then "-" else "") ++ pad 4 b.natAbs).toList) : a = b := by
  by_cases ha : a < 0 <;> by_cases hb : b < 0 <;> simp [ha,hb] at h
  · have := pad_injective (toList_injective (by simpa using h))
    omega
  · exact absurd (by simpa using h) (@pad_ne_signed 4 4 a.natAbs b.natAbs)
  · exact absurd (by simpa using h.symm) (@pad_ne_signed 4 4 b.natAbs a.natAbs)
  · have := pad_injective (toList_injective (by simpa using h))
    omega

/-- The characters behind the year of an instant of whole seconds. -/
def behindYear (month mday hour minute sec : Int) : List Char :=
  '-' :: ((padInt 2 month).toList ++ '-' :: ((padInt 2 mday).toList ++ 'T' ::
    ((padInt 2 hour).toList ++ ':' :: ((padInt 2 minute).toList ++ ':' :: ((padInt 2 sec).toList ++ ".000Z".toList)))))

theorem formatServerTime_toList (h : t % second = 0) : (formatServerTime t).toList =
      ((if (dateOf (fixed 0) t).year < 0 then "-" else "") ++ pad 4 (dateOf (fixed 0) t).year.natAbs).toList ++
      behindYear (dateOf (fixed 0) t).month (dateOf (fixed 0) t).day
        (hourOf (fixed 0) t) (minuteOf (fixed 0) t) (secondOf (fixed 0) t) := by
  have hms : (padInt 3 (t % second / 1000000)).toList = ['0','0','0'] := by
    rw [h]
    rfl
  simp [formatServerTime,behindYear,hms]

/-- Numbers of two digits. -/
def TwoDigits (n : Int) : Prop := 0 ≤ n ∧ n < 100

theorem TwoDigits.cancel (hm : TwoDigits m) (hn : TwoDigits n)
    (h : (padInt 2 m).toList ++ l = (padInt 2 n).toList ++ r) : m = n ∧ l = r := by
  have hlen : (padInt 2 m).toList.length = (padInt 2 n).toList.length := by
    rw [padInt_two hm.1 hm.2,padInt_two hn.1 hn.2]
    rfl
  obtain ⟨hpad,hrest⟩ := List.append_inj h hlen
  exact ⟨padInt_injective hpad,hrest⟩

theorem twoDigits_month (z : Zone) (t : Int) : TwoDigits (dateOf z t).month := by
  have := Calendar.date_bounds (z.wall t / day)
  unfold TwoDigits dateOf
  omega

theorem twoDigits_day (z : Zone) (t : Int) : TwoDigits (dateOf z t).day := by
  have := Calendar.date_bounds (z.wall t / day)
  unfold TwoDigits dateOf
  omega

theorem twoDigits_hour (z : Zone) (t : Int) : TwoDigits (hourOf z t) := by
  have := hourOf_bounds z t
  unfold TwoDigits
  omega

theorem twoDigits_minute (z : Zone) (t : Int) : TwoDigits (minuteOf z t) := by
  have := minuteOf_bounds z t
  unfold TwoDigits
  omega

theorem twoDigits_second (z : Zone) (t : Int) : TwoDigits (secondOf z t) := by
  have := secondOf_bounds z t
  unfold TwoDigits
  omega

theorem formatServerTime_injective (ha : a % second = 0) (hb : b % second = 0)
    (h : formatServerTime a = formatServerTime b) : a = b := by
  have hlist := congrArg String.toList h
  rw [formatServerTime_toList ha,formatServerTime_toList hb] at hlist
  have hlen : ∀ {month mday hour minute sec : Int}, TwoDigits month → TwoDigits mday →
      TwoDigits hour → TwoDigits minute → TwoDigits sec →
      (behindYear month mday hour minute sec).length = 20 := by
    intro month mday hour minute sec h1 h2 h3 h4 h5
    simp [behindYear,padInt_two h1.1 h1.2,padInt_two h2.1 h2.2,padInt_two h3.1 h3.2,
      padInt_two h4.1 h4.2,padInt_two h5.1 h5.2]
  obtain ⟨hyear,hrest⟩ := List.append_inj' hlist (by
    rw [hlen (twoDigits_month _ _) (twoDigits_day _ _) (twoDigits_hour _ _) (twoDigits_minute _ _)
        (twoDigits_second _ _),
      hlen (twoDigits_month _ _) (twoDigits_day _ _) (twoDigits_hour _ _) (twoDigits_minute _ _)
        (twoDigits_second _ _)])
  replace hyear := year_injective hyear
  obtain ⟨hmonth,hrest⟩ := (twoDigits_month _ a).cancel (twoDigits_month _ b) (List.cons.inj hrest).2
  obtain ⟨hday,hrest⟩ := (twoDigits_day _ a).cancel (twoDigits_day _ b) (List.cons.inj hrest).2
  obtain ⟨hhour,hrest⟩ := (twoDigits_hour _ a).cancel (twoDigits_hour _ b) (List.cons.inj hrest).2
  obtain ⟨hminute,hrest⟩ := (twoDigits_minute _ a).cancel (twoDigits_minute _ b) (List.cons.inj hrest).2
  obtain ⟨hsecond,-⟩ := (twoDigits_second _ a).cancel (twoDigits_second _ b) (List.cons.inj hrest).2
  have hdate : dateOf (fixed 0) a = dateOf (fixed 0) b := by
    cases hda : dateOf (fixed 0) a
    cases hdb : dateOf (fixed 0) b
    simp_all only
  have hclock := date_of_clock_self (fixed 0) a
  rw [hdate,hhour,hminute,hsecond,date_of_clock_self] at hclock
  simp only [fixed,wall] at hclock
  omega

end Sake.Proofs.Time

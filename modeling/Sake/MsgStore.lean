import Sake.Irc

namespace Sake.MsgStore

/-- How a Go call can fail: with an error value, or by panicking. -/
inductive Failure where
  | error (text : String)
  | panic (text : String)
deriving Repr, DecidableEq

/-- The part of a message ID that belongs to one store. -/
inductive MsgIDBody where
  | memory (seq : Nat)
  | fs (year month day : Int) (offset : Int)
  | db (id : Int)
deriving Repr, DecidableEq

/-- The content of an internal message ID. The source passes it around as text
and parses it where it is needed; the model keeps what the text says. -/
structure MsgID where
  network : Int
  target : String
  body : MsgIDBody
deriving Repr, DecidableEq

structure LoadMessageOptions where
  network : Int
  entity : String
  limit : Int
  events : Bool
deriving Repr, DecidableEq

end Sake.MsgStore

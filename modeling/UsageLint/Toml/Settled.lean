import UsageLint.Toml.Moment
import UsageLint.Toml.Value

namespace UsageLint.Toml

/-!
# Settled values

A value as it was read is settled where nothing prescribes its kind: its tables
are put in the order of their keys, and a table that opens with the key of a
moment is that moment. Settling fails if there is no moment under that key.
-/

/-- What becomes of the entries that follow a moment in its table. -/
inductive Surplus where
  | ignored
  | refused
deriving Repr, DecidableEq

/-- The value under the key of a moment, if a table opens with it, and what follows. -/
def momentEntry? (entries : Entries) : Option (Value × Entries) :=
  match entries with
  | (key, value) :: rest => if key = momentKey then some (value, rest) else none
  | [] => none

/-- The moment that a value gives as its text, if what follows may stand there. -/
def momentOf? (surplus : Surplus) (value : Value) (rest : Entries) : Option Value :=
  if surplus = .refused && !rest.isEmpty then
    none
  else
    (value.string?.bind momentOfText?).map Value.datetime

namespace Value

mutual

/-- Settle a value. -/
def settle? (surplus : Surplus) : Value → Option Value
  | array items => (settleItems? surplus items).map array
  | table entries =>
      match momentEntry? entries with
      | some (value, rest) => momentOf? surplus value rest
      | none =>
          (settleEntries? surplus entries).map fun settled =>
            ofTable (.ofList settled)
  | value => some value

/-- Settle the items of an array. -/
def settleItems? (surplus : Surplus) : List Value → Option (List Value)
  | [] => some []
  | item :: rest => do
      let settled ← item.settle? surplus
      return settled :: (← settleItems? surplus rest)

/-- Settle the values of entries. -/
def settleEntries? (surplus : Surplus) : Entries → Option Entries
  | [] => some []
  | (key, value) :: rest => do
      let settled ← value.settle? surplus
      return (key, settled) :: (← settleEntries? surplus rest)

end

end Value

/-- The table of entries whose values are settled; its own keys are all kept. -/
def Table.settle? (surplus : Surplus) (entries : Entries) : Option Table :=
  (Value.settleEntries? surplus entries).map NameTable.ofList

end UsageLint.Toml

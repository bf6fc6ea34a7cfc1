import ChangeRelay.Number.Binary64

/-!
Dynamic values: what a document holds and what a foreign collaborator may answer. A record keeps
its fields in the order in which they were written.
-/
namespace ChangeRelay

open Number (Binary64)

inductive Value where
  | null
  | bool (b : Bool)
  | int (n : Int)
  | real (x : Binary64)
  | text (s : String)
  | list (items : List Value)
  | record (fields : List (String × Value))
  deriving Repr, Inhabited

namespace Value

mutual

def same : Value → Value → Bool
  | .null, .null => true
  | .bool a, .bool b => a == b
  | .int a, .int b => a == b
  | .real a, .real b => decide (a = b)
  | .text a, .text b => a == b
  | .list as, .list bs => sameLists as bs
  | .record as, .record bs => sameFields as bs
  | _, _ => false

def sameLists : List Value → List Value → Bool
  | [], [] => true
  | a :: as, b :: bs => same a b && sameLists as bs
  | _, _ => false

def sameFields : List (String × Value) → List (String × Value) → Bool
  | [], [] => true
  | (m, a) :: as, (n, b) :: bs => m == n && same a b && sameFields as bs
  | _, _ => false

end

mutual

theorem same_iff (a b : Value) : same a b = true ↔ a = b := by
  cases a <;> cases b <;> simp [same]
  · exact sameLists_iff _ _
  · exact sameFields_iff _ _

theorem sameLists_iff (as bs : List Value) : sameLists as bs = true ↔ as = bs := by
  cases as with
  | nil => cases bs <;> simp [sameLists]
  | cons a as =>
    cases bs with
    | nil => simp [sameLists]
    | cons b bs => simp [sameLists, same_iff a b, sameLists_iff as bs]

theorem sameFields_iff (as bs : List (String × Value)) : sameFields as bs = true ↔ as = bs := by
  cases as with
  | nil => cases bs <;> simp [sameFields]
  | cons a as =>
    obtain ⟨m, a⟩ := a
    cases bs with
    | nil => simp [sameFields]
    | cons b bs =>
      obtain ⟨n, b⟩ := b
      simp [sameFields, same_iff a b, sameFields_iff as bs]

end

instance : DecidableEq Value := fun a b => decidable_of_iff _ (same_iff a b)

def field? (name : String) : Value → Option Value
  | .record fields => fields.lookup name
  | _ => none

/-- Whether a value counts as a yes: nothing, zero and everything empty do not. -/
def isTruthy : Value → Bool
  | .null => false
  | .bool b => b
  | .int n => n != 0
  | .real x => !x.isZero
  | .text s => s != ""
  | .list items => !items.isEmpty
  | .record fields => !fields.isEmpty

/-- The number a value stands for: booleans are the numbers zero and one. -/
def number? : Value → Option (Int ⊕ Binary64)
  | .bool b => some (.inl (if b then 1 else 0))
  | .int n => some (.inl n)
  | .real x => some (.inr x)
  | _ => none

def sameNumber : Int ⊕ Binary64 → Int ⊕ Binary64 → Bool
  | .inl a, .inl b => a == b
  | .inl a, .inr b => b.toInt? == some a
  | .inr a, .inl b => a.toInt? == some b
  | .inr a, .inr b => a.sameNumber b

mutual

/-- Equality of what two values mean: numbers by their size, records whatever their order. -/
def agrees : Value → Value → Bool
  | .null, .null => true
  | .text a, .text b => a == b
  | .list as, .list bs => listsAgree as bs
  | .record as, .record bs => as.length == bs.length && fieldsAgree as bs
  | a, b =>
    match a.number?, b.number? with
    | some m, some n => sameNumber m n
    | _, _ => false

def listsAgree : List Value → List Value → Bool
  | [], [] => true
  | a :: as, b :: bs => agrees a b && listsAgree as bs
  | _, _ => false

def fieldsAgree : List (String × Value) → List (String × Value) → Bool
  | [], _ => true
  | (name, a) :: as, bs =>
    (match bs.lookup name with
      | some b => agrees a b
      | none => false) && fieldsAgree as bs

end

end Value
end ChangeRelay

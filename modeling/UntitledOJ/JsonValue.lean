import Mathlib.Data.List.Basic

/-!
# JSON values

Plans, job payloads and job results are `serde_json::Value`s.  The control
plane compares them, looks up single members, and hashes them; an object is the
list of its members in map order.
-/

namespace UntitledOJ

inductive Value where
  | null
  | bool (value : Bool)
  | number (value : Int)
  | string (value : String)
  | array (items : List Value)
  | object (members : List (String × Value))

namespace Value

mutual

def decEq : (first second : Value) → Decidable (first = second)
  | .null, .null => isTrue rfl
  | .bool first, .bool second => decidable_of_iff (first = second) (by simp)
  | .number first, .number second => decidable_of_iff (first = second) (by simp)
  | .string first, .string second => decidable_of_iff (first = second) (by simp)
  | .array first, .array second =>
    match decEqItems first second with
    | isTrue same => isTrue (by rw [same])
    | isFalse differ => isFalse (by simpa using differ)
  | .object first, .object second =>
    match decEqMembers first second with
    | isTrue same => isTrue (by rw [same])
    | isFalse differ => isFalse (by simpa using differ)
  | .null, .bool _ | .null, .number _ | .null, .string _ | .null, .array _
  | .null, .object _ | .bool _, .null | .bool _, .number _ | .bool _, .string _
  | .bool _, .array _ | .bool _, .object _ | .number _, .null | .number _, .bool _
  | .number _, .string _ | .number _, .array _ | .number _, .object _
  | .string _, .null | .string _, .bool _ | .string _, .number _
  | .string _, .array _ | .string _, .object _ | .array _, .null | .array _, .bool _
  | .array _, .number _ | .array _, .string _ | .array _, .object _
  | .object _, .null | .object _, .bool _ | .object _, .number _
  | .object _, .string _ | .object _, .array _ => isFalse nofun

def decEqItems : (first second : List Value) → Decidable (first = second)
  | [], [] => isTrue rfl
  | [], _ :: _ | _ :: _, [] => isFalse nofun
  | first :: firsts, second :: seconds =>
    match decEq first second, decEqItems firsts seconds with
    | isTrue same, isTrue rest => isTrue (by rw [same, rest])
    | isFalse differ, _ => isFalse fun equal => differ (List.cons.inj equal).1
    | _, isFalse differ => isFalse fun equal => differ (List.cons.inj equal).2

def decEqMembers : (first second : List (String × Value)) → Decidable (first = second)
  | [], [] => isTrue rfl
  | [], _ :: _ | _ :: _, [] => isFalse nofun
  | (name, first) :: firsts, (other, second) :: seconds =>
    match decEq first second, decEqMembers firsts seconds with
    | isTrue same, isTrue rest =>
      decidable_of_iff (name = other) (by simp [same, rest])
    | isFalse differ, _ => isFalse fun equal =>
      differ (Prod.mk.inj (List.cons.inj equal).1).2
    | _, isFalse differ => isFalse fun equal => differ (List.cons.inj equal).2

end

instance : DecidableEq Value := decEq

/-- `Value::get` with a string index. -/
def get (value : Value) (name : String) : Option Value :=
  match value with
  | .object members => (members.find? fun member => member.1 = name).map Prod.snd
  | _ => none

def asBool : Value → Option Bool
  | .bool value => some value
  | _ => none

def isNull : Value → Bool
  | .null => true
  | _ => false

mutual

/-- How deep arrays and objects are nested in the value. -/
def nesting : Value → Nat
  | .array items => nestingItems items + 1
  | .object members => nestingMembers members + 1
  | _ => 0

def nestingItems : List Value → Nat
  | [] => 0
  | item :: rest => max item.nesting (nestingItems rest)

def nestingMembers : List (String × Value) → Nat
  | [] => 0
  | (_, value) :: rest => max value.nesting (nestingMembers rest)

end

end Value

end UntitledOJ

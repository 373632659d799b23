import JobGate.Decimal.Binary64

/-!
# JSON values

A document keeps the order of its members and tells whole numbers from doubles. Members form a
list in which a key is found at its first place: `Members.set` overwrites in place or appends,
`Members.erase` fills the gap with the last member. Two documents are `same` when they agree up to
the order of members; `1` and `1.0` differ, and the two zeros of doubles do not.
-/
namespace JobGate

/-- A number of a document: whole numbers from -2^63 to 2^64 - 1 are kept as such. -/
inductive Number where
  | whole (n : Int)
  | double (x : Binary64)
  deriving DecidableEq

/-- Equality of numbers: a whole number is no double, doubles compare as numbers. -/
def Number.same : Number → Number → Bool
  | .whole a, .whole b => a == b
  | .double a, .double b => a.equals b
  | _, _ => false

inductive Json where
  | null
  | bool (b : Bool)
  | number (n : Number)
  | string (s : String)
  | array (items : List Json)
  | object (members : List (String × Json))
  deriving Inhabited

/-- The members of an object, in document order. -/
abbrev Members := List (String × Json)

namespace Members

/-- The value of a key, at its first place. -/
def get? (key : String) : Members → Option Json
  | [] => none
  | (k, v) :: rest => if k = key then some v else get? key rest

def keys (members : Members) : List String := members.map (·.1)

/-- Gives a key a value: in its place if the key is there, else as the last member. -/
def set (key : String) (value : Json) : Members → Members
  | [] => [(key, value)]
  | (k, v) :: rest => if k = key then (k, value) :: rest else (k, v) :: set key value rest

/-- The members with each key once, at its first place with its last value. -/
def ofPairs (pairs : List (String × Json)) : Members :=
  pairs.foldl (fun members (k, v) => set k v members) []

/-- The members without a key: the last member moves to its place. -/
def erase (key : String) : Members → Members
  | [] => []
  | (k, v) :: rest =>
    if k = key then
      match rest.getLast? with
      | none => []
      | some last => last :: rest.dropLast
    else (k, v) :: erase key rest

def has (key : String) (members : Members) : Bool := (get? key members).isSome

/-- The members other than those named, in order. -/
def without (names : List String) (members : Members) : Members :=
  members.filter fun member => !names.contains member.1

end Members

namespace Json

mutual
/-- The same document up to the order of members. -/
def same : Json → Json → Bool
  | .null, .null => true
  | .bool a, .bool b => a == b
  | .number a, .number b => a.same b
  | .string a, .string b => a == b
  | .array xs, .array ys => sameItems xs ys
  | .object xs, .object ys => xs.length == ys.length && sameMembers xs ys
  | _, _ => false
termination_by structural x => x
/-- The same documents one by one. -/
def sameItems : List Json → List Json → Bool
  | [], [] => true
  | x :: xs, y :: ys => same x y && sameItems xs ys
  | _, _ => false
termination_by structural x => x
/-- Every member of the first list has the same value in the second. -/
def sameMembers : List (String × Json) → List (String × Json) → Bool
  | [], _ => true
  | (key, value) :: rest, others =>
    (match Members.get? key others with
      | some other => same value other
      | none => false) && sameMembers rest others
termination_by structural x => x
end

mutual
/-- Decides equality of documents, member order included. -/
def decEq : (a b : Json) → Decidable (a = b)
  | .null, b => match b with
    | .null => isTrue rfl
    | .bool _ | .number _ | .string _ | .array _ | .object _ => isFalse nofun
  | .bool x, b => match b with
    | .bool y => if h : x = y then isTrue (by rw [h]) else isFalse fun e => h (by injection e)
    | .null | .number _ | .string _ | .array _ | .object _ => isFalse nofun
  | .number x, b => match b with
    | .number y => if h : x = y then isTrue (by rw [h]) else isFalse fun e => h (by injection e)
    | .null | .bool _ | .string _ | .array _ | .object _ => isFalse nofun
  | .string x, b => match b with
    | .string y => if h : x = y then isTrue (by rw [h]) else isFalse fun e => h (by injection e)
    | .null | .bool _ | .number _ | .array _ | .object _ => isFalse nofun
  | .array xs, b => match b with
    | .array ys => match decEqItems xs ys with
      | isTrue h => isTrue (by rw [h])
      | isFalse h => isFalse fun e => h (by injection e)
    | .null | .bool _ | .number _ | .string _ | .object _ => isFalse nofun
  | .object xs, b => match b with
    | .object ys => match decEqMembers xs ys with
      | isTrue h => isTrue (by rw [h])
      | isFalse h => isFalse fun e => h (by injection e)
    | .null | .bool _ | .number _ | .string _ | .array _ => isFalse nofun
termination_by structural a => a
/-- Decides equality of lists of documents. -/
def decEqItems : (xs ys : List Json) → Decidable (xs = ys)
  | [], [] => isTrue rfl
  | [], _ :: _ => isFalse nofun
  | _ :: _, [] => isFalse nofun
  | x :: xs, y :: ys => match decEq x y with
    | isFalse h => isFalse fun e => h (List.cons.inj e).1
    | isTrue h => match decEqItems xs ys with
      | isFalse h' => isFalse fun e => h' (List.cons.inj e).2
      | isTrue h' => isTrue (by rw [h, h'])
termination_by structural xs => xs
/-- Decides equality of lists of members. -/
def decEqMembers : (xs ys : List (String × Json)) → Decidable (xs = ys)
  | [], [] => isTrue rfl
  | [], _ :: _ => isFalse nofun
  | _ :: _, [] => isFalse nofun
  | (k, x) :: xs, (l, y) :: ys =>
    if hk : k = l then
      match decEq x y with
      | isFalse h => isFalse fun e => h (Prod.mk.inj (List.cons.inj e).1).2
      | isTrue h => match decEqMembers xs ys with
        | isFalse h' => isFalse fun e => h' (List.cons.inj e).2
        | isTrue h' => isTrue (by rw [hk, h, h'])
    else isFalse fun e => hk (Prod.mk.inj (List.cons.inj e).1).1
termination_by structural xs => xs
end

instance : DecidableEq Json := decEq

def ofInt (n : Int) : Json := .number (.whole n)

def ofStrings (texts : List String) : Json := .array (texts.map .string)

def string? : Json → Option String
  | .string s => some s
  | _ => none

def array? : Json → Option (List Json)
  | .array items => some items
  | _ => none

def object? : Json → Option Members
  | .object members => some members
  | _ => none

/-- The member of an object with that key. -/
def field? (key : String) : Json → Option Json
  | .object members => Members.get? key members
  | _ => none

mutual
/-- How many arrays and objects stand inside one another at the deepest place. -/
def depth : Json → Nat
  | .array items => depthItems items + 1
  | .object members => depthMembers members + 1
  | _ => 0
def depthItems : List Json → Nat
  | [] => 0
  | v :: rest => max (depth v) (depthItems rest)
def depthMembers : List (String × Json) → Nat
  | [] => 0
  | (_, v) :: rest => max (depth v) (depthMembers rest)
end

end Json
end JobGate

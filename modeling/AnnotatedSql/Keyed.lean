/-!
Entries under distinct keys, in the order of their first insertion. A later value under a key takes the place of
the earlier one.
-/
namespace AnnotatedSql

/-- Values under string keys, in order. -/
abbrev Keyed (α : Type) := List (String × α)

namespace Keyed

variable {α : Type}

def get? (entries : Keyed α) (key : String) : Option α :=
  (entries.find? (·.1 == key)).map (·.2)

def has (entries : Keyed α) (key : String) : Bool :=
  entries.any (·.1 == key)

def keys (entries : Keyed α) : List String :=
  entries.map (·.1)

def values (entries : Keyed α) : List α :=
  entries.map (·.2)

/-- Puts a value under a key: in the place of the value there, or at the end. -/
def insert (entries : Keyed α) (key : String) (value : α) : Keyed α :=
  if entries.has key then entries.map fun entry => if entry.1 == key then (key, value) else entry
  else entries ++ [(key, value)]

/-- Takes the entry under a key out; the later ones move up. -/
def erase (entries : Keyed α) (key : String) : Keyed α :=
  entries.eraseP (·.1 == key)

def indexOf? (entries : Keyed α) (key : String) : Option Nat :=
  entries.findIdx? (·.1 == key)

/-- Changes the value of the first entry whose key satisfies `p`. -/
def modifyFirst (p : String → Bool) (f : α → α) : Keyed α → Keyed α
  | [] => []
  | (key, value) :: rest => if p key then (key, f value) :: rest else (key, value) :: modifyFirst p f rest

/-- Puts a value under a key at the given index. A new key may stand at any index up to the end; a key that is
    already there moves, and it cannot move behind the last entry. -/
def insertAt? (entries : Keyed α) (index : Nat) (key : String) (value : α) : Option (Keyed α) :=
  if entries.has key then
    if index < entries.length then some ((entries.erase key).insertIdx index (key, value)) else none
  else
    if index ≤ entries.length then some (entries.insertIdx index (key, value)) else none

end Keyed

end AnnotatedSql

import DataFetch.Backend
import DataFetch.Decimal.Binary64

/-! # Values

Bound parameters, payloads, stored records and log fields share one type of plain values. A record is
a list of named values in order; putting a value under a name that occurs replaces it in place.
-/
namespace DataFetch

inductive Value where
  | null
  | bool (b : Bool)
  | int (n : Int)
  | float (x : Binary64)
  | text (s : String)
  | bytes (bs : List UInt8)
  | list (items : List Value)
  | object (fields : List (String × Value))
  | backend (b : Backend)
  deriving Repr, Inhabited

abbrev Record := List (String × Value)

namespace Record

/-- The value under the first occurrence of a name. -/
def get? : Record → String → Option Value
  | [], _ => none
  | (k, v) :: rest, key => if k = key then some v else get? rest key

def has (r : Record) (key : String) : Bool :=
  (r.get? key).isSome

def getD (r : Record) (key : String) (default : Value) : Value :=
  (r.get? key).getD default

/-- Puts a value under a name, in place when the name occurs and at the end otherwise. -/
def put : Record → String → Value → Record
  | [], key, value => [(key, value)]
  | (k, v) :: rest, key, value =>
    if k = key then (k, value) :: rest else (k, v) :: put rest key value

def putNew (r : Record) (key : String) (value : Value) : Record :=
  if r.has key then r else r.put key value

def putAll (r entries : Record) : Record :=
  entries.foldl (fun acc (k, v) => acc.put k v) r

def erase (r : Record) (key : String) : Record :=
  r.filter fun (k, _) => k ≠ key

def eraseAll (r : Record) (keys : List String) : Record :=
  keys.foldl erase r

/-- The value under a name, with the record that is left without it. -/
def pop? (r : Record) (key : String) : Option (Value × Record) :=
  (r.get? key).map fun v => (v, r.erase key)

def keys (r : Record) : List String :=
  r.map (·.1)

def values (r : Record) : List Value :=
  r.map (·.2)

/-- The record with these entries, a later value taking the place of an earlier one. -/
def ofEntries (entries : List (String × Value)) : Record :=
  putAll [] entries

@[simp]
theorem get?_nil (key : String) : get? [] key = none := rfl

theorem get?_put (r : Record) (key other : String) (value : Value) :
    (r.put key value).get? other = if key = other then some value else r.get? other := by
  induction r with
  | nil => simp [put, get?]
  | cons entry rest ih =>
    obtain ⟨k, v⟩ := entry
    by_cases hk : k = key
    · subst hk
      by_cases ho : k = other <;> simp [put, get?, ho]
    · by_cases ho : k = other
      · subst ho
        simp [put, get?, hk, Ne.symm hk]
      · simp [put, get?, hk, ho, ih]

theorem get?_erase (r : Record) (key other : String) :
    (r.erase key).get? other = if key = other then none else r.get? other := by
  induction r with
  | nil => simp [erase, get?]
  | cons entry rest ih =>
    obtain ⟨k, v⟩ := entry
    simp only [erase] at ih ⊢
    by_cases hk : k = key
    · subst hk
      by_cases ho : k = other <;> simp_all [get?]
    · by_cases ho : k = other
      · subst ho
        simp [get?, hk, Ne.symm hk]
      · simpa [get?, hk, ho] using ih

/-- A field of a record that names no field twice is what its name gives. -/
theorem get?_of_mem {r : Record} (h : r.keys.Nodup) {key : String} {value : Value}
    (hm : (key, value) ∈ r) : r.get? key = some value := by
  induction r with
  | nil => cases hm
  | cons entry rest ih =>
    obtain ⟨k, v⟩ := entry
    rw [keys, List.map_cons, List.nodup_cons] at h
    rcases List.mem_cons.mp hm with he | hm
    · cases he
      exact if_pos rfl
    · have hk : k ≠ key := by
        rintro rfl
        exact h.1 (List.mem_map.mpr ⟨_, hm, rfl⟩)
      rw [get?, if_neg hk]
      exact ih h.2 hm

end Record

namespace Value

/-- Does a value count as present where only a presence is asked for? Null, false, zero and whatever
is empty do not. -/
def isTruthy : Value → Bool
  | null => false
  | bool b => b
  | int n => n != 0
  | float x => x.magnitude != 0
  | text s => s != ""
  | bytes bs => !bs.isEmpty
  | list items => !items.isEmpty
  | object fields => !fields.isEmpty
  | backend _ => true

def isNull : Value → Bool
  | null => true
  | _ => false

/-- The text that a value holds; the symbol of a backend holds its name. -/
def asText? : Value → Option String
  | text s => some s
  | backend b => some b.name
  | _ => none

end Value

end DataFetch

/-!
# Values by key

Sequences of pairs in which every key stands once, in the order in which the keys first came.
Putting a pair replaces the value of its key in place or adds the pair at the end.
-/

set_option autoImplicit false

namespace LineMap.Keyed

variable {κ α : Type} [DecidableEq κ]

/-- Sets the value of a key, in its place if it is there and at the end otherwise. -/
def put (key : κ) (value : α) : List (κ × α) → List (κ × α)
  | [] => [(key, value)]
  | (other, old) :: rest =>
      if other = key then (other, value) :: rest else (other, old) :: put key value rest

def putAll (pairs : List (κ × α)) (entries : List (κ × α)) : List (κ × α) :=
  pairs.foldl (fun kept pair => put pair.1 pair.2 kept) entries

/-- One value per key; of several the last. -/
def latest (pairs : List (κ × α)) : List (κ × α) :=
  putAll pairs []

theorem lookup_put [BEq κ] [LawfulBEq κ] (key other : κ) (value : α) (pairs : List (κ × α)) :
    (put key value pairs).lookup other =
      if other = key then some value else pairs.lookup other := by
  induction pairs with
  | nil =>
      by_cases same : other = key
      · simp [put, same]
      · have differs : (other == key) = false := by simp [same]
        simp [put, List.lookup_cons, same, differs]
  | cons pair rest inductionHypothesis =>
      obtain ⟨name, old⟩ := pair
      by_cases found : name = key
      · by_cases same : other = key
        · simp [put, found, same]
        · have differs : (other == key) = false := by simp [same]
          simp [put, found, List.lookup_cons, same, differs]
      · by_cases here : other = name
        · subst here
          simp [put, found]
        · have differs : (other == name) = false := by simp [here]
          simp [put, found, List.lookup_cons, differs, inductionHypothesis]

end LineMap.Keyed

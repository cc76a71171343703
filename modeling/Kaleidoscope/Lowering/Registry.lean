import Kaleidoscope.Syntax.Expr

/-!
# The registry

Definitions and declarations outlive their unit: the registry keeps the latest of each name, and
definitions in it are turned into code again in every later unit that calls them.
-/
namespace Kaleidoscope

/-- What a name was last introduced as. -/
inductive Entry where
  /-- A definition. -/
  | function (prototype : Prototype) (body : Expr)
  /-- A declaration of a function of the host. -/
  | declaration (prototype : Prototype)

namespace Entry

/-- The prototype of an entry. -/
def prototype : Entry → Prototype
  | function prototype _ => prototype
  | declaration prototype => prototype

end Entry

/-- Names and what they were last introduced as, each name at most once. -/
structure Registry where
  /-- The entries, the latest first. -/
  entries : List (String × Entry)
  /-- No name has two entries. -/
  distinct : (entries.map (·.1)).Nodup

namespace Registry

/-- The registry of a new session. -/
def empty : Registry := ⟨[], List.nodup_nil⟩

/-- What a name was last introduced as. -/
def lookup? (registry : Registry) (name : String) : Option Entry := registry.entries.lookup name

/-- Drop a name. -/
def erase (registry : Registry) (name : String) : Registry where
  entries := registry.entries.filter (·.1 ≠ name)
  distinct := registry.distinct.sublist (List.filter_sublist.map _)

/-- Introduce a name, or introduce it anew. -/
def insert (registry : Registry) (name : String) (entry : Entry) : Registry where
  entries := (name, entry) :: (registry.erase name).entries
  distinct := by
    refine List.nodup_cons.2 ⟨?_, (registry.erase name).distinct⟩
    simp [erase]

/-- Bring back what a name was introduced as earlier, or that it was not. -/
def restore (registry : Registry) (name : String) : Option Entry → Registry
  | some entry => registry.insert name entry
  | none => registry.erase name

/-- All names in alphabetical order. -/
def names (registry : Registry) : List String :=
  (registry.entries.map (·.1)).mergeSort fun left right => decide (left ≤ right)

/-- An erased name is not found; every other stays what it was. -/
theorem lookup?_erase (registry : Registry) (name other : String) :
    (registry.erase name).lookup? other = if other = name then none else registry.lookup? other := by
  obtain ⟨entries, distinct⟩ := registry
  simp only [erase, lookup?]
  clear distinct
  induction entries with
  | nil => simp
  | cons entry rest hypothesis =>
    obtain ⟨key, value⟩ := entry
    rw [List.filter_cons, List.lookup_cons]
    by_cases erased : key = name
    · subst erased
      by_cases same : other = key
      · simpa [same] using hypothesis
      · simpa [same, beq_eq_false_iff_ne.2 same] using hypothesis
    · by_cases found : other = key
      · subst found
        simp [erased]
      · simpa [erased, List.lookup_cons, beq_eq_false_iff_ne.2 found] using hypothesis

/-- An introduced name is found; every other stays what it was. -/
theorem lookup?_insert (registry : Registry) (name other : String) (entry : Entry) :
    (registry.insert name entry).lookup? other =
      if other = name then some entry else registry.lookup? other := by
  have erased := lookup?_erase registry name other
  simp only [lookup?] at erased
  simp only [insert, lookup?, List.lookup_cons, erased]
  by_cases same : other = name
  · simp [same]
  · simp [same, beq_eq_false_iff_ne.2 same]

end Registry

end Kaleidoscope

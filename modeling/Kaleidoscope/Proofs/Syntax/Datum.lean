import Kaleidoscope.Syntax.Printer

/-!
# Data in parentheses

Printed trees are data in parentheses: an atom, or a list that starts with an atom and goes on with
data, a space before each. The text of such data can be read in one way only, whatever stands behind
it, as long as every atom is without spaces and parentheses (`Datum.IsClear.isReadOnce`): an atom ends
at the first of them, and a list at the parenthesis that closes it.
-/
namespace Kaleidoscope

/-- An atom, or data in parentheses behind an atom. -/
inductive Datum where
  /-- An atom. -/
  | atom (word : String)
  /-- An atom and data behind it. -/
  | list (head : String) (items : List Datum)

namespace Datum

mutual

/-- The text of a datum. -/
def text : Datum → List Char
  | atom word => word.toList
  | list head items => '(' :: (head.toList ++ (textAll items ++ [')']))

/-- The texts of data, a space before each. -/
def textAll : List Datum → List Char
  | [] => []
  | item :: rest => ' ' :: (item.text ++ textAll rest)

end

/-- Whether a character stands between data. -/
def isDelimiter (c : Char) : Bool := c = ' ' || c = '(' || c = ')'

/-- A word that can be an atom: it has some characters, none of which stands between data. -/
def IsAtom (word : String) : Prop :=
  word.toList ≠ [] ∧ ∀ c ∈ word.toList, isDelimiter c = false

/-- Data whose atoms are told apart from what stands between data. -/
inductive IsClear : Datum → Prop
  /-- An atom. -/
  | atom {word : String} (isAtom : IsAtom word) : IsClear (.atom word)
  /-- A list. -/
  | list {head : String} {items : List Datum} (isAtom : IsAtom head)
      (areClear : ∀ item ∈ items, IsClear item) : IsClear (.list head items)

/-- What can stand behind a datum: nothing, or what starts with a character that stands between data. -/
def Delimits (rest : List Char) : Prop := ∀ c ∈ rest.head?, isDelimiter c = true

variable {word other : String} {rest more : List Char}

/-- The characters of an atom are those up to the first one that stands between data. -/
theorem takeWhile_atom (isAtom : IsAtom word) (delimits : Delimits rest) :
    (word.toList ++ rest).takeWhile (!isDelimiter ·) = word.toList := by
  rw [List.takeWhile_append_of_pos fun c member => by simp [isAtom.2 c member]]
  cases rest with
  | nil => exact List.append_nil _
  | cons c rest => simp [delimits c rfl]

/-- An atom is read in one way. -/
theorem atom_unique (isAtom : IsAtom word) (isOther : IsAtom other) (delimits : Delimits rest)
    (delimitsMore : Delimits more) (same : word.toList ++ rest = other.toList ++ more) :
    word = other ∧ rest = more := by
  have words : word.toList = other.toList := by
    rw [← takeWhile_atom isAtom delimits, same, takeWhile_atom isOther delimitsMore]
  rw [words] at same
  exact ⟨String.toList_inj.1 words, List.append_cancel_left same⟩

/-- An atom does not start as a list does. -/
theorem atom_ne_list (isAtom : IsAtom word) : word.toList ++ rest ≠ '(' :: more := by
  intro same
  cases letters : word.toList with
  | nil => exact isAtom.1 letters
  | cons c _ =>
    have first : c = '(' := by
      rw [letters] at same
      exact (List.cons.inj same).1
    have clear := isAtom.2 c (letters ▸ List.mem_cons_self)
    rw [first] at clear
    contradiction

/-- Data in a list are followed by the parenthesis that closes it, or by a space. -/
theorem delimits_textAll (items : List Datum) (rest : List Char) :
    Delimits (textAll items ++ ')' :: rest) := by
  cases items with
  | nil =>
    rintro c ⟨⟩
    rfl
  | cons item items =>
    rintro c ⟨⟩
    rfl

/-- A datum is read in one way, whatever stands behind it. -/
def IsReadOnce (datum : Datum) : Prop :=
  ∀ {second : Datum} {rest more : List Char}, second.IsClear → Delimits rest → Delimits more →
    datum.text ++ rest = second.text ++ more → datum = second ∧ rest = more

/-- Data up to the parenthesis that closes a list are read one by one. -/
theorem items_unique {items : List Datum} (areRead : ∀ item ∈ items, item.IsReadOnce) :
    ∀ {others : List Datum}, (∀ other ∈ others, other.IsClear) →
      textAll items ++ ')' :: rest = textAll others ++ ')' :: more → items = others ∧ rest = more := by
  induction items with
  | nil =>
    intro others _ same
    cases others with
    | nil => exact ⟨rfl, (List.cons.inj same).2⟩
    | cons => cases same
  | cons item items hypothesis =>
    intro others areClear same
    cases others with
    | nil => cases same
    | cons other others =>
      obtain ⟨isRead, othersRead⟩ := List.forall_mem_cons.1 areRead
      obtain ⟨isClear, othersClear⟩ := List.forall_mem_cons.1 areClear
      have front : item.text ++ (textAll items ++ ')' :: rest) =
          other.text ++ (textAll others ++ ')' :: more) := by
        simpa [textAll] using same
      obtain ⟨rfl, behind⟩ :=
        isRead isClear (delimits_textAll _ _) (delimits_textAll _ _) front
      obtain ⟨rfl, last⟩ := hypothesis othersRead othersClear behind
      exact ⟨rfl, last⟩

/-- Data whose atoms are told apart from what stands between data are read in one way. -/
theorem IsClear.isReadOnce {datum : Datum} (isClear : datum.IsClear) : datum.IsReadOnce := by
  induction isClear with
  | atom isAtom =>
    intro second rest more isSecond delimits delimitsMore same
    cases isSecond with
    | atom isOther =>
      obtain ⟨rfl, last⟩ := atom_unique isAtom isOther delimits delimitsMore same
      exact ⟨rfl, last⟩
    | list => exact absurd same (atom_ne_list isAtom)
  | @list head items isAtom _ hypothesis =>
    intro second rest more isSecond _ _ same
    cases isSecond with
    | atom isOther => exact absurd same.symm (atom_ne_list isOther)
    | @list otherHead others isOther areClear =>
      have inside : head.toList ++ (textAll items ++ ')' :: rest) =
          otherHead.toList ++ (textAll others ++ ')' :: more) := by
        simpa [text] using same
      obtain ⟨rfl, behind⟩ :=
        atom_unique isAtom isOther (delimits_textAll _ _) (delimits_textAll _ _) inside
      obtain ⟨rfl, last⟩ := items_unique hypothesis areClear behind
      exact ⟨rfl, last⟩

/-- Data with the same text are the same. -/
theorem IsClear.text_injective {first second : Datum} (isFirst : first.IsClear)
    (isSecond : second.IsClear) (same : first.text = second.text) : first = second := by
  have nothing : Delimits [] := fun _ none => by contradiction
  exact (isFirst.isReadOnce isSecond nothing nothing (by rw [same])).1

end Datum

end Kaleidoscope

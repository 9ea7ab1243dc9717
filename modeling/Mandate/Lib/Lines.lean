import Mathlib.Data.List.Basic

/-! Lines and fields of a text, and what appending to the text does to them. -/
namespace Mandate.Lib.Lines
open List

def lines : List Char → List (List Char) × List Char
  | [] => ([], [])
  | c :: rest =>
    let (ended, tail) := lines rest
    if c = '\n' then ([] :: ended, tail)
    else match ended with
      | [] => ([], c :: tail)
      | line :: more => ((c :: line) :: more, tail)

theorem lines_newline (rest : List Char) : lines ('\n' :: rest) = ([] :: (lines rest).1, (lines rest).2) := by
  rw [lines]
  simp

variable {c : Char}

theorem lines_cons (inline : c ≠ '\n') (rest : List Char) :
    lines (c :: rest) = match (lines rest).1 with
      | [] => ([], c :: (lines rest).2)
      | line :: more => ((c :: line) :: more, (lines rest).2) := by
  rw [lines]
  simp only [inline, if_false]

theorem lines_append (text more : List Char) : lines (text ++ more) =
      ((lines text).1 ++ (lines ((lines text).2 ++ more)).1, (lines ((lines text).2 ++ more)).2) := by
  induction text with
  | nil => rfl
  | cons c rest ih =>
    by_cases inline : c = '\n'
    · subst inline
      rw [cons_append, lines_newline, ih, lines_newline]
      rfl
    · rw [cons_append, lines_cons inline, ih, lines_cons inline]
      cases ended : (lines rest).1 with
      | nil =>
        simp only [nil_append, cons_append]
        rw [lines_cons inline]
      | cons line others => rfl

variable {text : List Char}

theorem lines_inline (inline : '\n' ∉ text) : lines text = ([], text) := by
  induction text with
  | nil => rfl
  | cons c rest ih =>
    have apart : c ≠ '\n' := fun same => inline (by simp [same])
    rw [lines_cons apart, ih fun member => inline (mem_cons_of_mem _ member)]

theorem lines_ended {line : List Char} (inline : '\n' ∉ line) : lines (line ++ ['\n']) = ([line], []) := by
  rw [lines_append, lines_inline inline]
  induction line with
  | nil => rfl
  | cons c rest ih =>
    have apart : c ≠ '\n' := fun same => inline (by simp [same])
    have tail := ih fun member => inline (mem_cons_of_mem _ member)
    simp only [nil_append, Prod.mk.injEq] at tail ⊢
    rw [cons_append, lines_cons apart, tail.1, tail.2]
    exact ⟨rfl, rfl⟩

theorem tail_inline (text : List Char) : '\n' ∉ (lines text).2 := by
  induction text with
  | nil => simp [lines]
  | cons c rest ih =>
    by_cases inline : c = '\n'
    · subst inline
      rw [lines_newline]
      exact ih
    · rw [lines_cons inline]
      split
      · simpa [Ne.symm inline] using ih
      · exact ih

theorem lines_continue (inline : '\n' ∉ text) (more : List Char) :
    (∃ rest others, (lines (text ++ more)).1 = (text ++ rest) :: others) ∨
      ∃ rest, lines (text ++ more) = ([], text ++ rest) := by
  induction text with
  | nil =>
    cases ended : (lines more).1 with
    | nil => exact Or.inr ⟨(lines more).2, Prod.ext ended rfl⟩
    | cons line others => exact Or.inl ⟨line, others, ended⟩
  | cons c tail ih =>
    have apart : c ≠ '\n' := fun same => inline (by simp [same])
    rw [cons_append, lines_cons apart]
    rcases ih fun member => inline (mem_cons_of_mem _ member) with ⟨rest, others, parts⟩ | ⟨rest, parts⟩
    · exact Or.inl ⟨rest, others, by rw [parts]; rfl⟩
    · exact Or.inr ⟨rest, by rw [parts]; rfl⟩

def isSpace (c : Char) : Bool := c ∈ [' ', '\t', '\n', '\x0b', '\x0c', '\r']

def fieldsAfter (word : List Char) : List Char → List (List Char)
  | [] => if word = [] then [] else [word]
  | c :: rest =>
    if isSpace c then (if word = [] then fieldsAfter [] rest else word :: fieldsAfter [] rest)
    else fieldsAfter (word ++ [c]) rest

def fields (text : List Char) : List (List Char) := fieldsAfter [] text

variable {solid : List Char}

theorem fieldsAfter_solid (unbroken : ∀ c ∈ solid, isSpace c = false)
    (word rest : List Char) : fieldsAfter word (solid ++ rest) = fieldsAfter (word ++ solid) rest := by
  induction solid generalizing word with
  | nil => simp
  | cons c more ih =>
    rw [cons_append, fieldsAfter, unbroken c (by simp), if_neg Bool.false_ne_true,
      ih (fun d member => unbroken d (mem_cons_of_mem _ member)), List.append_assoc, singleton_append]

theorem fields_solid (begun : solid ≠ []) (unbroken : ∀ c ∈ solid, isSpace c = false) :
    fields solid = [solid] := by
  have read := fieldsAfter_solid unbroken [] []
  rw [append_nil, nil_append, fieldsAfter, if_neg begun] at read
  exact read

variable {word : List Char}

theorem fieldsAfter_space (begun : word ≠ []) (space : isSpace c = true)
    (rest : List Char) : fieldsAfter word (c :: rest) = word :: fieldsAfter [] rest := by
  rw [fieldsAfter, if_pos space, if_neg begun]

theorem fieldsAfter_append (space : isSpace c = true) (word text rest : List Char) :
    fieldsAfter word (text ++ c :: rest) = fieldsAfter word text ++ fieldsAfter [] rest := by
  induction text generalizing word with
  | nil =>
    by_cases begun : word = []
    · simp [begun, fieldsAfter, space]
    · simp [begun, fieldsAfter, space]
  | cons d more ih =>
    rw [cons_append, fieldsAfter, fieldsAfter]
    by_cases broken : isSpace d = true
    · by_cases begun : word = []
      · simp [broken, begun, ih]
      · simp [broken, begun, ih]
    · simp [broken, ih]

theorem fieldsAfter_begun (begun : word ≠ []) (rest : List Char) :
    ∃ first others, fieldsAfter word rest = first :: others ∧ word <+: first := by
  induction rest generalizing word with
  | nil => exact ⟨word, [], by simp [fieldsAfter, begun], prefix_refl _⟩
  | cons c more ih =>
    by_cases space : isSpace c = true
    · exact ⟨word, _, fieldsAfter_space begun space more, prefix_refl _⟩
    · obtain ⟨first, others, parts, start⟩ := ih (concat_ne_nil c word)
      refine ⟨first, others, ?_, (prefix_append word [c]).trans start⟩
      rw [fieldsAfter, if_neg space, parts]

theorem fieldsAfter_extend {init : List (List Char)} {last : List Char}
    (parts : fieldsAfter word text = init ++ [last]) (rest : List Char) :
    ∃ longer others, fieldsAfter word (text ++ rest) = init ++ longer :: others ∧ last <+: longer := by
  induction text generalizing word init with
  | nil =>
    by_cases begun : word = []
    · rw [fieldsAfter, if_pos begun] at parts
      simp at parts
    · rw [fieldsAfter, if_neg begun] at parts
      obtain ⟨first, others, found, start⟩ := fieldsAfter_begun begun rest
      cases init with
      | nil =>
        obtain rfl : word = last := by simpa using parts
        exact ⟨first, others, found, start⟩
      | cons head tail => simp at parts
  | cons c more ih =>
    by_cases space : isSpace c = true
    · by_cases begun : word = []
      · rw [fieldsAfter, if_pos space, if_pos begun] at parts
        obtain ⟨longer, others, found, start⟩ := ih parts
        refine ⟨longer, others, ?_, start⟩
        rw [cons_append, fieldsAfter, if_pos space, if_pos begun, found]
      · rw [fieldsAfter_space begun space] at parts
        rw [cons_append, fieldsAfter_space begun space]
        cases init with
        | nil =>
          have same : word = last ∧ fieldsAfter [] more = [] := by simpa using parts
          exact ⟨word, fieldsAfter [] (more ++ rest), rfl, same.1 ▸ prefix_refl _⟩
        | cons head tail =>
          have same : word = head ∧ fieldsAfter [] more = tail ++ [last] := by simpa using parts
          obtain ⟨longer, others, found, start⟩ := ih same.2
          refine ⟨longer, others, ?_, start⟩
          rw [found, same.1, cons_append]
    · rw [fieldsAfter, if_neg space] at parts
      obtain ⟨longer, others, found, start⟩ := ih parts
      refine ⟨longer, others, ?_, start⟩
      rw [cons_append, fieldsAfter, if_neg space, found]

theorem fieldsAfter_ne_nil (member : c ∈ text) (solid : isSpace c = false)
    (word : List Char) : fieldsAfter word text ≠ [] := by
  induction text generalizing word with
  | nil => cases member
  | cons d more ih =>
    by_cases space : isSpace d = true
    · have onward : c ∈ more := by
        rcases mem_cons.mp member with rfl | later
        · rw [space] at solid
          cases solid
        · exact later
      by_cases begun : word = []
      · rw [fieldsAfter, if_pos space, if_pos begun]
        exact ih onward []
      · rw [fieldsAfter_space begun space]
        exact cons_ne_nil _ _
    · rw [fieldsAfter, if_neg space]
      obtain ⟨first, others, parts, _⟩ := fieldsAfter_begun (concat_ne_nil d word) more
      rw [parts]
      exact cons_ne_nil _ _

theorem joined_inj {l m : List String} (left : ∀ s ∈ l, s.toList ≠ [] ∧ c ∉ s.toList)
    (right : ∀ s ∈ m, s.toList ≠ [] ∧ c ∉ s.toList)
    (same : (String.singleton c).intercalate l = (String.singleton c).intercalate m) : l = m := by
  have spelled : ∀ k : List String, (∀ s ∈ k, s.toList ≠ [] ∧ c ∉ s.toList) →
      ((String.singleton c).intercalate k).toList.splitOn c = if k = [] then [[]] else k.map String.toList := by
    intro k solid
    rw [String.toList_intercalate, String.toList_singleton]
    split
    · simp_all
    · rename_i some
      have words : k.map String.toList ≠ [] := by simpa using some
      refine splitOn_intercalate c ?_ words
      intro word listed
      obtain ⟨s, member, rfl⟩ := mem_map.mp listed
      exact (solid s member).2
  have both := spelled l left
  rw [same, spelled m right] at both
  have solid : ∀ k : List String, (∀ s ∈ k, s.toList ≠ [] ∧ c ∉ s.toList) → [[]] ≠ k.map String.toList := by
    intro k solid same
    match k with
    | [] => cases same
    | [s] =>
      have empty : [] = s.toList := by simpa using same
      exact (solid s (by simp)).1 empty.symm
    | _ :: _ :: _ => simp at same
  have letters : Function.Injective String.toList := fun _ _ => String.toList_inj.mp
  split at both <;> split at both
  · simp_all
  · exact absurd both (solid l left)
  · exact absurd both.symm (solid m right)
  · exact (map_injective_iff.mpr letters both).symm

theorem split_inj {α : Type} {x : α} {before before' after after' : List α} (first : x ∉ before)
    (second : x ∉ before') (same : before ++ x :: after = before' ++ x :: after') :
    before = before' ∧ after = after' := by
  induction before generalizing before' with
  | nil =>
    cases before' with
    | nil => exact ⟨rfl, (List.cons.inj same).2⟩
    | cons y before' =>
      have head := (List.cons.inj same).1
      exact absurd (head ▸ mem_cons_self ..) second
  | cons y before ih =>
    cases before' with
    | nil =>
      have head := (List.cons.inj same).1
      exact absurd (head ▸ mem_cons_self ..) first
    | cons z before' =>
      obtain ⟨head, tail⟩ := List.cons.inj same
      obtain ⟨front, rest⟩ := ih (fun member => first (mem_cons_of_mem _ member))
        (fun member => second (mem_cons_of_mem _ member)) tail
      exact ⟨by rw [head, front], rest⟩

theorem split_last_inj {α : Type} {x : α} {before before' after after' : List α} (first : x ∉ after)
    (second : x ∉ after') (same : before ++ x :: after = before' ++ x :: after') :
    before = before' ∧ after = after' := by
  have turned := congrArg List.reverse same
  simp only [reverse_append, reverse_cons, List.append_assoc, singleton_append] at turned
  obtain ⟨tail, head⟩ := split_inj (fun member => first (mem_reverse.mp member))
    (fun member => second (mem_reverse.mp member)) turned
  exact ⟨reverse_inj.mp head, reverse_inj.mp tail⟩

end Mandate.Lib.Lines

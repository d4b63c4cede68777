import Conform.Text.Fields

/-!
# Fields between separators

A text without the separator is one field, and a separator between two texts puts the fields of the
one before those of the other. With the separators back between them the fields are the text.
Trimmed text stands between the characters that have been cut off.
-/

namespace Conform.Text

variable {separator : Char}

theorem fields_of_not_mem : ∀ {s : List Char}, separator ∉ s → fields separator s = [s]
  | [], _ => rfl
  | c :: s, h => by
    obtain ⟨hc, hs⟩ := not_or.1 (mt List.mem_cons.2 h)
    rw [fields, fields_of_not_mem hs]
    exact if_neg (Ne.symm hc)

theorem exists_fields (s : List Char) :
    ∃ first others, fields separator s = first :: others := by
  cases s with
  | nil => exact ⟨[], [], rfl⟩
  | cons c s =>
    rw [fields]
    split
    · exact ⟨_, _, rfl⟩
    · split <;> exact ⟨_, _, rfl⟩

theorem fields_join (s t : List Char) :
    fields separator (s ++ separator :: t) = fields separator s ++ fields separator t := by
  induction s with
  | nil => simp [fields]
  | cons c s ih =>
    obtain ⟨first, others, hs⟩ := @exists_fields separator s
    rw [List.cons_append, fields, fields, ih, hs]
    split <;> rfl

theorem fields_append (t : List Char) {s : List Char} (h : separator ∉ s) :
    fields separator (s ++ separator :: t) = s :: fields separator t := by
  rw [fields_join, fields_of_not_mem h, List.singleton_append]

/-- The fields of words without the separator that each stand behind one. -/
theorem fields_flatMap {words : List (List Char)} (h : ∀ word ∈ words, separator ∉ word) :
    fields separator (words.flatMap (separator :: ·)) = [] :: words := by
  have hwords : ∀ (word : List Char) {words : List (List Char)}, separator ∉ word →
      (∀ word ∈ words, separator ∉ word) →
        fields separator (word ++ words.flatMap (separator :: ·)) = word :: words := by
    intro word words hword h
    induction words generalizing word with
    | nil => rw [List.flatMap_nil, List.append_nil, fields_of_not_mem hword]
    | cons next words ih =>
      obtain ⟨hnext, hwords⟩ := List.forall_mem_cons.1 h
      rw [List.flatMap_cons, List.cons_append, fields_append _ hword, ih next hnext hwords]
  exact hwords [] List.not_mem_nil h

/-- There is one field more than there are separators. -/
theorem length_fields (s : List Char) :
    (fields separator s).length = s.count separator + 1 := by
  induction s with
  | nil => rfl
  | cons c s ih =>
    obtain ⟨first, others, hs⟩ := @exists_fields separator s
    rw [hs] at ih
    rw [fields, hs]
    by_cases hc : c = separator
    · simp only [hc, if_true, List.length_cons, List.count_cons_self] at ih ⊢
      omega
    · simp only [hc, if_false, List.length_cons] at ih ⊢
      rw [List.count_cons_of_ne hc]
      omega

theorem not_mem_of_mem_fields {s field : List Char} (h : field ∈ fields separator s) :
    separator ∉ field := by
  induction s generalizing field with
  | nil =>
    obtain rfl := List.mem_singleton.1 h
    exact List.not_mem_nil
  | cons c s ih =>
    obtain ⟨first, others, hs⟩ := @exists_fields separator s
    rw [fields, hs] at h
    rw [hs] at ih
    split at h
    · rcases List.mem_cons.1 h with rfl | h
      · exact List.not_mem_nil
      · exact ih h
    · rename_i hc
      rcases List.mem_cons.1 h with rfl | h
      · exact fun hmem => (List.mem_cons.1 hmem).elim (Ne.symm hc) (ih List.mem_cons_self)
      · exact ih (List.mem_cons_of_mem _ h)

theorem mem_of_mem_fields {s field : List Char} {c : Char} (hfield : field ∈ fields separator s)
    (hc : c ∈ field) : c ∈ s := by
  induction s generalizing field with
  | nil =>
    obtain rfl := List.mem_singleton.1 hfield
    cases hc
  | cons d s ih =>
    obtain ⟨first, others, hs⟩ := @exists_fields separator s
    rw [fields, hs] at hfield
    rw [hs] at ih
    split at hfield
    · rcases List.mem_cons.1 hfield with rfl | hfield
      · cases hc
      · exact List.mem_cons_of_mem _ (ih hfield hc)
    · rcases List.mem_cons.1 hfield with rfl | hfield
      · rcases List.mem_cons.1 hc with rfl | hc
        · exact List.mem_cons_self
        · exact List.mem_cons_of_mem _ (ih List.mem_cons_self hc)
      · exact List.mem_cons_of_mem _ (ih (List.mem_cons_of_mem _ hfield) hc)

/-- The fields put together again. -/
theorem intercalate_fields (s : List Char) : [separator].intercalate (fields separator s) = s := by
  induction s with
  | nil => rfl
  | cons c s ih =>
    obtain ⟨first, others, hs⟩ := @exists_fields separator s
    rw [hs] at ih
    rw [fields, hs]
    by_cases hc : c = separator
    · rw [if_pos hc, List.intercalate_cons_cons, ih, hc]
      rfl
    · simp only [if_neg hc]
      cases others with
      | nil =>
        rw [← ih]
        rfl
      | cons next others =>
        rw [List.intercalate_cons_cons] at ih ⊢
        rw [← ih]
        rfl

/-! ## Trimmed text -/

variable {p : Char → Bool}

/-- What is cut off a text are characters of the class. -/
theorem exists_trim (p : Char → Bool) (s : List Char) :
    ∃ before after, s = before ++ trim p s ++ after ∧
      (∀ c ∈ before, p c = true) ∧ ∀ c ∈ after, p c = true := by
  refine ⟨s.takeWhile p, ((s.dropWhile p).reverse.takeWhile p).reverse, ?_, ?_, ?_⟩
  · rw [trim, List.append_assoc, ← List.reverse_append, List.takeWhile_append_dropWhile,
      List.reverse_reverse, List.takeWhile_append_dropWhile]
  · exact fun c hc => List.all_eq_true.1 List.all_takeWhile c hc
  · exact fun c hc => List.all_eq_true.1 List.all_takeWhile c (List.mem_reverse.1 hc)

/-- A text that neither begins nor ends with a character of the class, between such characters. -/
theorem trim_append {before after core : List Char} {first last : Char} {init tail : List Char}
    (hbefore : ∀ c ∈ before, p c = true) (hafter : ∀ c ∈ after, p c = true)
    (hfirst : core = first :: tail) (hlast : core = init ++ [last]) (hp : p first = false)
    (hp' : p last = false) : trim p (before ++ core ++ after) = core := by
  have hfront : (before ++ (core ++ after)).dropWhile p = core ++ after := by
    rw [List.dropWhile_append_of_pos hbefore, hfirst, List.cons_append, List.dropWhile_cons, hp,
      if_neg Bool.false_ne_true]
  have hback : (after.reverse ++ core.reverse).dropWhile p = core.reverse := by
    rw [List.dropWhile_append_of_pos fun c hc => hafter c (List.mem_reverse.1 hc), hlast,
      List.reverse_append, List.reverse_singleton, List.singleton_append, List.dropWhile_cons, hp',
      if_neg Bool.false_ne_true]
  rw [trim, List.append_assoc, hfront, List.reverse_append, hback, List.reverse_reverse]

end Conform.Text

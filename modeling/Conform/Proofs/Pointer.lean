import Conform.Pointer
import Conform.Proofs.Text.Fields
import Mathlib.Data.List.Basic

/-!
# Pointers and paths

A slash in a pointer stands before a token and nowhere else, since slashes in tokens are escaped. So
the fields of a pointer are its tokens (`fields_joinTokens`), and paths with the same pointer have
the same texts (`texts_of_join`).
-/

namespace Conform.Pointer

/-! ## Tokens -/

theorem escapeChar_cases (c : Char) : (c = '~' ∧ escapeChar c = ['~', '0']) ∨
    (c = '/' ∧ escapeChar c = ['~', '1']) ∨ (c ≠ '~' ∧ c ≠ '/' ∧ escapeChar c = [c]) := by
  unfold escapeChar
  by_cases htilde : c = '~'
  · exact .inl ⟨htilde, if_pos htilde⟩
  · by_cases hslash : c = '/'
    · exact .inr (.inl ⟨hslash, by rw [if_neg htilde, if_pos hslash]⟩)
    · exact .inr (.inr ⟨htilde, hslash, by rw [if_neg htilde, if_neg hslash]⟩)

theorem slash_not_mem_escapeToken (token : List Char) : '/' ∉ escapeToken token := by
  intro hmem
  obtain ⟨c, -, hc⟩ := List.mem_flatMap.1 hmem
  rcases escapeChar_cases c with ⟨-, h⟩ | ⟨-, h⟩ | ⟨-, hslash, h⟩ <;> rw [h] at hc
  · exact absurd hc (by decide)
  · exact absurd hc (by decide)
  · exact hslash (List.mem_singleton.1 hc).symm

theorem escapeToken_cons (c : Char) (token : List Char) :
    escapeToken (c :: token) = escapeChar c ++ escapeToken token := rfl

/-- An escape says which character it stands for. -/
theorem escapeChar_append_inj {c d : Char} {s t : List Char}
    (h : escapeChar c ++ s = escapeChar d ++ t) : c = d ∧ s = t := by
  rcases escapeChar_cases c with ⟨rfl, hc⟩ | ⟨rfl, hc⟩ | ⟨hc', -, hc⟩ <;>
    rcases escapeChar_cases d with ⟨rfl, hd⟩ | ⟨rfl, hd⟩ | ⟨hd', -, hd⟩ <;>
    simp only [hc, hd, List.cons_append, List.nil_append, List.cons.injEq] at h
  · exact ⟨rfl, h.2.2⟩
  · exact absurd h.2.1 (by decide)
  · exact absurd h.1.symm hd'
  · exact absurd h.2.1 (by decide)
  · exact ⟨rfl, h.2.2⟩
  · exact absurd h.1.symm hd'
  · exact absurd h.1 hc'
  · exact absurd h.1 hc'
  · exact h

theorem escapeToken_cons_ne_nil (c : Char) (token : List Char) : escapeToken (c :: token) ≠ [] := by
  rw [escapeToken_cons]
  rcases escapeChar_cases c with ⟨-, h⟩ | ⟨-, h⟩ | ⟨-, -, h⟩ <;> rw [h] <;> exact nofun

theorem escapeToken_injective : ∀ {s t : List Char}, escapeToken s = escapeToken t → s = t
  | [], [], _ => rfl
  | [], d :: t, h => absurd h.symm (escapeToken_cons_ne_nil d t)
  | c :: s, [], h => absurd h (escapeToken_cons_ne_nil c s)
  | c :: s, d :: t, h => by
    obtain ⟨rfl, hrest⟩ := escapeChar_append_inj h
    rw [escapeToken_injective hrest]

/-- An index is known by its text. -/
theorem index_inj {i j : Nat} (h : (Value.int i).text = (Value.int j).text) : i = j := by
  have hdigits := congrArg String.toList (show i.repr = j.repr from h)
  rw [Nat.toList_repr, Nat.toList_repr] at hdigits
  have hvalues := congrArg (fun digits => Nat.ofDigitChars 10 digits 0) hdigits
  simpa only [Nat.ofDigitChars_toDigits (by decide : 1 < 10) (Nat.le_refl 10)] using hvalues

/-! ## Pointers -/

theorem joinTokens_cons (token : List Char) (tokens : List (List Char)) :
    joinTokens (token :: tokens) = '/' :: (escapeToken token ++ joinTokens tokens) := rfl

/-- The fields of a pointer are its tokens, after what stands before the first slash. -/
theorem fields_joinTokens (tokens : List (List Char)) :
    Text.fields '/' (joinTokens tokens) = [] :: tokens.map escapeToken := by
  have hjoin : joinTokens tokens = (tokens.map escapeToken).flatMap ('/' :: ·) := by
    rw [List.flatMap_map]
    rfl
  rw [hjoin, Text.fields_flatMap (List.forall_mem_map.2 fun token _ =>
    slash_not_mem_escapeToken token)]

theorem joinTokens_injective {tokens others : List (List Char)}
    (h : joinTokens tokens = joinTokens others) : tokens = others := by
  have hfields := congrArg (Text.fields '/') h
  rw [fields_joinTokens, fields_joinTokens] at hfields
  exact List.map_injective_iff.2 (fun _ _ => escapeToken_injective) (List.cons.inj hfields).2

/-- Paths with the same pointer have the same texts. -/
theorem texts_of_join {path other : Path} (h : join path = join other) :
    path.map Value.text = other.map Value.text := by
  have htokens := joinTokens_injective (String.ofList_injective h)
  have hmap (path : Path) : (path.map fun segment => segment.text.toList) =
      (path.map Value.text).map String.toList := by
    rw [List.map_map]
    rfl
  rw [hmap, hmap] at htokens
  exact List.map_injective_iff.2 (fun _ _ => String.toList_inj.1) htokens

theorem join_append (path other : Path) : join (path ++ other) = join path ++ join other := by
  apply String.toList_inj.1
  simp [join, joinTokens]

theorem append_join_nil (base : String) : base ++ join [] = base := String.append_empty

theorem texts_of_append {base : String} {path other : Path}
    (h : base ++ join path = base ++ join other) : path.map Value.text = other.map Value.text := by
  refine texts_of_join (String.toList_inj.1 ?_)
  have hchars := congrArg String.toList h
  rw [String.toList_append, String.toList_append] at hchars
  exact List.append_cancel_left hchars

theorem child_append_join (base : String) (segment : Value) (path : Path) :
    child base segment ++ join path = base ++ join (segment :: path) := by
  apply String.toList_inj.1
  simp [child, join, escape, joinTokens]

theorem child_eq (base : String) (segment : Value) :
    child base segment = base ++ join [segment] := by
  rw [← child_append_join, append_join_nil]

theorem child_child (base : String) (segment next : Value) :
    child (child base segment) next = base ++ join [segment, next] := by
  rw [child_eq, child_append_join]

end Conform.Pointer

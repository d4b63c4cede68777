import Conform.Proofs.Pointer
import Conform.Proofs.SourceMap
import Mathlib.Data.List.TakeWhile

/-!
# The search for a position

The closest recorded ancestor of a pointer is found by a loop on its text: as long as nothing is
known of the candidate, it is cut before its last slash. Nothing in the text bounds the loop, and it
does not end on a text without slashes that is not in the map (`search_of_no_slash`). The pointer of
a path is different: slashes stand before its tokens only, so a cut takes away the last segment
(`beforeLastSlash_join`), and the loop goes up the path, to the root at the latest. What it finds is
the entry of the longest prefix that has one (`locate_eq`).
-/

namespace Conform.SourceMap

/-! ## The loop -/

/-- The text before the last slash; without a slash, the whole text. -/
def beforeLastSlash (text : List Char) : List Char :=
  match text.reverse.dropWhile (· ≠ '/') with
  | [] => text
  | _ :: rest => rest.reverse

/-- One turn of the loop: it ends with an answer or goes on with another candidate. -/
def turn (map : SourceMap) (candidate : List Char) : Option Position ⊕ List Char :=
  if map.isEmpty then .inl none
  else
    match map.position? (String.ofList candidate) with
    | some position => .inl (some position)
    | none => if candidate.isEmpty then .inl none else .inr (beforeLastSlash candidate)

/-- The answer of the loop, if it ends within a number of turns. -/
def search (map : SourceMap) : Nat → List Char → Option (Option Position)
  | 0, _ => none
  | turns + 1, candidate =>
    match map.turn candidate with
    | .inl answer => some answer
    | .inr shorter => search map turns shorter

/-! ## Cuts -/

theorem ancestors_eq : ∀ backwards : List Char,
    ancestors backwards = match backwards.dropWhile (· ≠ '/') with
      | [] => []
      | _ :: rest => rest :: ancestors rest
  | [] => rfl
  | c :: rest => by
    by_cases hc : c = '/'
    · simp [ancestors, hc]
    · rw [ancestors, if_neg hc, ancestors_eq rest, List.dropWhile_cons_of_pos (by simpa using hc)]

theorem dropWhile_append_slash {text : List Char} (h : '/' ∉ text) (rest : List Char) :
    (text ++ '/' :: rest).dropWhile (· ≠ '/') = '/' :: rest := by
  rw [List.dropWhile_append_of_pos, List.dropWhile_cons_of_neg (by simp)]
  intro c hc
  have hne : c ≠ '/' := fun heq => h (heq ▸ hc)
  simpa using hne

theorem beforeLastSlash_append {text : List Char} (base : List Char) (h : '/' ∉ text) :
    beforeLastSlash (base ++ '/' :: text) = base := by
  have hreverse : (base ++ '/' :: text).reverse = text.reverse ++ '/' :: base.reverse := by simp
  have hdrop := dropWhile_append_slash (mt List.mem_reverse.1 h) base.reverse
  simp only [beforeLastSlash, hreverse, hdrop, List.reverse_reverse]

theorem beforeLastSlash_of_not_mem {text : List Char} (h : '/' ∉ text) :
    beforeLastSlash text = text := by
  have hdrop : text.reverse.dropWhile (· ≠ '/') = [] := by
    rw [List.dropWhile_eq_nil_iff]
    intro c hc
    have hne : c ≠ '/' := fun heq => h (heq ▸ List.mem_reverse.1 hc)
    simpa using hne
  simp only [beforeLastSlash, hdrop]

theorem toList_join_concat (path : Pointer.Path) (segment : Value) :
    (Pointer.join (path ++ [segment])).toList =
      (Pointer.join path).toList ++ '/' :: Pointer.escapeToken segment.text.toList := by
  simp [Pointer.join, Pointer.joinTokens]

/-- A cut takes away the last segment of a path. -/
theorem beforeLastSlash_join (path : Pointer.Path) (segment : Value) :
    beforeLastSlash (Pointer.join (path ++ [segment])).toList = (Pointer.join path).toList := by
  rw [toList_join_concat]
  exact beforeLastSlash_append _ (Pointer.slash_not_mem_escapeToken _)

/-! ## Turns -/

section
variable {map : SourceMap}

theorem turn_of_known {candidate : List Char} {position : Position}
    (h : map.position? (String.ofList candidate) = some position) :
    map.turn candidate = .inl (some position) := by
  have hne : map.isEmpty = false := by
    cases map with
    | nil => cases h
    | cons => rfl
  simp [turn, hne, h]

/-- Where nothing is known, the loop gives up at the root, and at once if the map is empty. -/
theorem turn_of_unknown {candidate : List Char}
    (h : map.position? (String.ofList candidate) = none) :
    map.turn candidate =
      if map.isEmpty || candidate.isEmpty then .inl none else .inr (beforeLastSlash candidate) := by
  cases hmap : map.isEmpty <;> simp [turn, hmap, h]

theorem position?_of_isEmpty (h : map.isEmpty = true) (pointer : String) :
    map.position? pointer = none := by
  rw [List.isEmpty_iff.1 h]
  rfl

/-- A cut does not change what is closest to a candidate of which nothing is known. -/
theorem closest_beforeLastSlash {candidate : List Char}
    (h : map.position? (String.ofList candidate) = none) :
    map.closest (String.ofList (beforeLastSlash candidate)) =
      map.closest (String.ofList candidate) := by
  unfold beforeLastSlash
  split
  · rfl
  · rename_i c rest hdrop
    simp only [closest, String.toList_ofList, List.reverse_reverse]
    rw [ancestors_eq candidate.reverse, hdrop]
    simp [h]

theorem closest_of_known {pointer : String} {position : Position}
    (h : map.position? pointer = some position) : map.closest pointer = some position := by
  simp [closest, h]

/-- A child of which nothing is known is located where its parent is. -/
theorem locate_concat {path : Pointer.Path} {segment : Value} {position : Position}
    (h : map.position? (Pointer.join (path ++ [segment])) = none)
    (hparent : map.position? (Pointer.join path) = some position) (file : Option String) :
    map.locate (Pointer.join (path ++ [segment])) file =
      ⟨file, some (Pointer.join (path ++ [segment])), position.line, position.column⟩ := by
  rw [← String.ofList_toList (s := Pointer.join (path ++ [segment]))] at h
  have hclosest := closest_beforeLastSlash h
  rw [beforeLastSlash_join, String.ofList_toList, String.ofList_toList,
    closest_of_known hparent] at hclosest
  rw [locate, ← hclosest, Option.bind_some, Option.bind_some]

theorem closest_of_turn (map : SourceMap) (candidate : List Char) :
    (∃ answer, map.turn candidate = .inl answer ∧
      map.closest (String.ofList candidate) = answer) ∨
    ∃ shorter, map.turn candidate = .inr shorter ∧
      map.closest (String.ofList shorter) = map.closest (String.ofList candidate) := by
  cases h : map.position? (String.ofList candidate) with
  | some position =>
    exact .inl ⟨some position, turn_of_known h, closest_of_known h⟩
  | none =>
    rw [turn_of_unknown h]
    split
    · rename_i hend
      refine .inl ⟨none, rfl, ?_⟩
      rcases Bool.or_eq_true_iff.1 hend with hmap | hroot
      · simp [closest, position?_of_isEmpty hmap]
      · obtain rfl := List.isEmpty_iff.1 hroot
        simpa [closest, ancestors] using h
    · exact .inr ⟨_, rfl, closest_beforeLastSlash h⟩

/-! ## Runs -/

/-- Whatever the loop answers is what is closest. -/
theorem closest_of_search : ∀ {turns : Nat} {candidate : List Char} {found : Option Position},
    map.search turns candidate = some found → map.closest (String.ofList candidate) = found
  | 0, _, _, h => nomatch h
  | turns + 1, candidate, found, h => by
    rw [search] at h
    rcases closest_of_turn map candidate with ⟨answer, hturn, hclosest⟩ | ⟨shorter, hturn, hclosest⟩
    · rw [hturn] at h
      rw [hclosest, Option.some.inj h]
    · rw [hturn] at h
      rw [← hclosest, closest_of_search h]

/-- Without a slash there is nothing to cut, and the loop goes on for ever. -/
theorem search_of_no_slash {text : List Char} (hmap : map.isEmpty = false)
    (hunknown : map.position? (String.ofList text) = none) (hne : text ≠ []) (hslash : '/' ∉ text) :
    ∀ turns, map.search turns text = none
  | 0 => rfl
  | turns + 1 => by
    have hturn : map.turn text = .inr text := by
      rw [turn_of_unknown hunknown, beforeLastSlash_of_not_mem hslash]
      simp [hmap, hne]
    rw [search, hturn]
    exact search_of_no_slash hmap hunknown hne hslash turns

/-- The position that the map has for the longest prefix of the path that it has one for. -/
inductive Nearest (map : SourceMap) (path : Pointer.Path) : Option Position → Prop
  | entry {above : Pointer.Path} {position : Position} :
      above <+: path → map.lookup (Pointer.join above) = some position →
      position.isKnown = true →
      (∀ longer : Pointer.Path, longer <+: path → above.length < longer.length →
        map.position? (Pointer.join longer) = none) →
      Nearest map path (some position)
  | nowhere :
      (∀ above : Pointer.Path, above <+: path → map.position? (Pointer.join above) = none) →
      Nearest map path none

theorem nearest_of_known {path : Pointer.Path} {position : Position}
    (h : map.position? (Pointer.join path) = some position) :
    Nearest map path (some position) := by
  obtain ⟨hlookup, hknown⟩ := Option.filter_eq_some_iff.1 h
  refine .entry List.prefix_rfl hlookup hknown fun longer hlonger hlt => ?_
  exact absurd hlonger.length_le (Nat.not_le.2 hlt)

/-- What is nearest to a path is nearest to a child of which nothing is known. -/
theorem Nearest.concat {path : Pointer.Path} {segment : Value} {found : Option Position}
    (h : Nearest map path found)
    (hunknown : map.position? (Pointer.join (path ++ [segment])) = none) :
    Nearest map (path ++ [segment]) found := by
  cases h with
  | entry habove hlookup hknown hlongest =>
    refine .entry (habove.trans (List.prefix_append path [segment])) hlookup hknown ?_
    intro longer hlonger hlt
    rcases List.prefix_concat_iff.1 hlonger with rfl | hlonger
    · exact hunknown
    · exact hlongest longer hlonger hlt
  | nowhere hnone =>
    refine .nowhere fun above habove => ?_
    rcases List.prefix_concat_iff.1 habove with rfl | habove
    · exact hunknown
    · exact hnone above habove

/-- The loop goes up a path, one segment each turn, and ends at the root at the latest. -/
theorem search_join (map : SourceMap) (path : Pointer.Path) :
    ∃ found, map.search (path.length + 1) (Pointer.join path).toList = some found ∧
      Nearest map path found := by
  induction path using List.reverseRecOn with
  | nil =>
    cases h : map.position? (Pointer.join []) with
    | some position =>
      refine ⟨some position, ?_, nearest_of_known h⟩
      rw [search, turn_of_known (by simpa using h)]
    | none =>
      refine ⟨none, ?_, .nowhere fun above habove => ?_⟩
      · rw [search, turn_of_unknown (by simpa using h)]
        simp [Pointer.join, Pointer.joinTokens]
      · rwa [List.prefix_nil.1 habove]
  | append_singleton path segment ih =>
    rw [List.length_append, List.length_singleton, search]
    cases h : map.position? (Pointer.join (path ++ [segment])) with
    | some position =>
      refine ⟨some position, ?_, nearest_of_known h⟩
      rw [turn_of_known (by rwa [String.ofList_toList])]
    | none =>
      rw [turn_of_unknown (by rwa [String.ofList_toList])]
      cases hmap : map.isEmpty with
      | true => exact ⟨none, rfl, .nowhere fun above _ => position?_of_isEmpty hmap _⟩
      | false =>
        obtain ⟨found, hfound, hnearest⟩ := ih
        have hroot : (Pointer.join (path ++ [segment])).toList.isEmpty = false := by
          rw [toList_join_concat]
          cases (Pointer.join path).toList <;> rfl
        refine ⟨found, ?_, hnearest.concat h⟩
        rw [hroot, beforeLastSlash_join]
        exact hfound

/-- A path is located in the file it was looked for in, at the position of its longest prefix that
has one, if there is one; the loop gets there, after one turn for each segment and one for the root
at most. -/
theorem locate_eq (map : SourceMap) (path : Pointer.Path) (file : Option String) :
    ∃ found, map.search (path.length + 1) (Pointer.join path).toList = some found ∧
      Nearest map path found ∧
      map.locate (Pointer.join path) file =
        ⟨file, some (Pointer.join path), found.bind Position.line, found.bind Position.column⟩ := by
  obtain ⟨found, hfound, hnearest⟩ := search_join map path
  have hclosest := closest_of_search hfound
  rw [String.ofList_toList] at hclosest
  exact ⟨found, hfound, hnearest, by rw [locate, hclosest]⟩

end

end Conform.SourceMap

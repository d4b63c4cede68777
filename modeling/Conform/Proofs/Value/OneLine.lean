import Conform.Proofs.Text.Fields
import Conform.Proofs.Value.Json
import Conform.Value.Display

/-!
# Text on one line

What is written of a value has no line end, since both kinds of quotes escape it and nothing else
that is written brings one in. The plain text of a value has one if and only if the value is a
string with one (`Value.oneLine_text_iff`).
-/

namespace Conform

namespace Text

/-- There is no line end in a text. -/
def OneLine (s : String) : Prop := '\n' ∉ s.toList

instance : DecidablePred OneLine := fun s => inferInstanceAs (Decidable ('\n' ∉ s.toList))

@[simp] theorem oneLine_append {s t : String} : OneLine (s ++ t) ↔ OneLine s ∧ OneLine t := by
  simp [OneLine, not_or]

@[simp] theorem oneLine_ofList {chars : List Char} :
    OneLine (String.ofList chars) ↔ '\n' ∉ chars := by
  rw [OneLine, String.toList_ofList]

theorem oneLine_intercalate {separator : String} (hseparator : OneLine separator) :
    ∀ {texts : List String}, (∀ text ∈ texts, OneLine text) →
      OneLine (String.intercalate separator texts)
  | [], _ => by simp [OneLine]
  | [text], h => by
    rw [OneLine, String.toList_intercalate]
    simpa [List.intercalate, OneLine] using h
  | text :: next :: rest, h => by
    obtain ⟨htext, hrest⟩ := List.forall_mem_cons.1 h
    have hothers := oneLine_intercalate hseparator hrest
    rw [OneLine, String.toList_intercalate] at hothers ⊢
    rw [List.map_cons, List.map_cons, List.intercalate_cons_cons, List.mem_append, List.mem_append]
    rw [List.map_cons] at hothers
    exact fun hmem => hmem.elim (fun hmem => hmem.elim htext hseparator) hothers

/-- Texts with commas between them, enclosed. -/
theorem oneLine_between {left right : String} {texts : List String} (hleft : OneLine left)
    (hright : OneLine right) (h : ∀ text ∈ texts, OneLine text) :
    OneLine (left ++ String.intercalate ", " texts ++ right) :=
  oneLine_append.2 ⟨oneLine_append.2 ⟨hleft, oneLine_intercalate (by decide) h⟩, hright⟩

/-! ## Numbers -/

theorem newline_not_mem_digits (n : Nat) : '\n' ∉ Nat.toDigits 10 n := fun hmem =>
  absurd (Nat.isDigit_of_mem_toDigits (by decide) (Nat.le_refl 10) hmem) (by decide)

@[simp] theorem oneLine_repr (n : Nat) : OneLine n.repr := by
  rw [OneLine, Nat.toList_repr]
  exact newline_not_mem_digits n

@[simp] theorem oneLine_intRepr (n : Int) : OneLine n.repr := by
  rw [Int.repr_eq_if]
  split
  · exact oneLine_repr _
  · exact oneLine_append.2 ⟨by decide, oneLine_repr _⟩

theorem newline_not_mem_hex (width n : Nat) : '\n' ∉ hex width n := by
  induction width generalizing n with
  | zero => exact List.not_mem_nil
  | succ width ih =>
    have hdigit : ∀ d < 16, '\n' ≠ Nat.digitChar d := by decide
    intro hmem
    rcases List.mem_append.1 hmem with hmem | hmem
    · exact ih _ hmem
    · exact hdigit _ (Nat.mod_lt _ (by decide)) (List.mem_singleton.1 hmem)

/-! ## Quotes -/

theorem quoteFor_ne (hasSingle hasDouble : Bool) : '\n' ≠ quoteFor hasSingle hasDouble := by
  cases hasSingle <;> cases hasDouble <;> decide

theorem newline_not_mem_escaped {quote : Char} (hquote : '\n' ≠ quote) (c : Char) :
    '\n' ∉ escaped quote c := by
  have hhex (letter : Char) (hletter : '\n' ≠ letter) (width : Nat) :
      '\n' ∉ '\\' :: letter :: hex width c.toNat := by
    simp [hletter, newline_not_mem_hex]
  unfold escaped
  split
  · rename_i h
    rcases h with rfl | rfl
    · simp [hquote]
    · decide
  · split
    · decide
    · rename_i hc
      split
      · decide
      · split
        · decide
        · split
          · exact fun hmem => hc (List.mem_singleton.1 hmem).symm
          · split
            · exact hhex 'x' (by decide) 2
            · split
              · exact hhex 'u' (by decide) 4
              · exact hhex 'U' (by decide) 8

theorem newline_not_mem_jsonEscaped (c : Char) : '\n' ∉ jsonEscaped c := by
  have hunit (n : Nat) : '\n' ∉ '\\' :: 'u' :: hex 4 n := by simp [newline_not_mem_hex]
  unfold jsonEscaped
  split
  · rename_i h
    rcases h with rfl | rfl <;> decide
  · split
    · decide
    · rename_i hc
      repeat' split
      · decide
      · decide
      · decide
      · decide
      · exact fun hmem => hc (List.mem_singleton.1 hmem).symm
      · exact hunit _
      · exact List.not_mem_append (hunit _) (hunit _)

/-- Escaped characters between quotes are on one line. -/
theorem oneLine_enclosed (left chars : List Char) {right : Char} {escape : Char → List Char}
    (hleft : '\n' ∉ left) (hright : '\n' ≠ right) (hescape : ∀ c, '\n' ∉ escape c) :
    OneLine (String.ofList (left ++ chars.flatMap escape ++ [right])) := by
  rw [oneLine_ofList]
  intro hmem
  rcases List.mem_append.1 hmem with hmem | hmem
  · rcases List.mem_append.1 hmem with hmem | hmem
    · exact hleft hmem
    · obtain ⟨c, -, hc⟩ := List.mem_flatMap.1 hmem
      exact hescape c hc
  · exact hright (List.mem_singleton.1 hmem)

@[simp] theorem oneLine_quoted (s : String) : OneLine (quoted s) := by
  have hquote := quoteFor_ne (s.toList.contains '\'') (s.toList.contains '"')
  exact oneLine_enclosed [_] s.toList (fun hmem => hquote (List.mem_singleton.1 hmem)) hquote
    (newline_not_mem_escaped hquote)

@[simp] theorem oneLine_quotedBytes (data : List UInt8) : OneLine (quotedBytes data) := by
  unfold quotedBytes
  generalize hchars : data.map (fun b => Char.ofNat b.toNat) = chars
  have hquote := quoteFor_ne (chars.contains '\'') (chars.contains '"')
  refine oneLine_enclosed ['b', _] chars (fun hmem => ?_) hquote fun c => ?_
  · rcases List.mem_cons.1 hmem with hmem | hmem
    · exact absurd hmem (by decide)
    · exact hquote (List.mem_singleton.1 hmem)
  · split
    · exact newline_not_mem_escaped hquote c
    · simp [newline_not_mem_hex]

@[simp] theorem oneLine_jsonQuoted (s : String) : OneLine (jsonQuoted s) :=
  oneLine_enclosed ['"'] s.toList (by decide) (by decide) newline_not_mem_jsonEscaped

end Text

/-! ## Dates and numbers -/

section
open Text

@[simp] theorem oneLine_padded (width n : Nat) : OneLine (padded width n) := by
  simp [padded]

@[simp] theorem Date.oneLine_text (d : Date) : OneLine d.text := by
  have hdash : OneLine "-" := by decide
  simp [Date.text, hdash]

@[simp] theorem Date.oneLine_display (d : Date) : OneLine d.display := by
  have hdate : OneLine "datetime.date(" := by decide
  have hend : OneLine ")" := by decide
  simp only [Date.display, oneLine_append, hdate, hend, true_and, and_true]
  exact oneLine_intercalate (by decide) (by simp)

@[simp] theorem DateTime.oneLine_offsetText (minutes : Int) : OneLine (offsetText minutes) := by
  have hsign : OneLine (if minutes < 0 then "-" else "+") := by split <;> decide
  have hcolon : OneLine ":" := by decide
  simp [offsetText, hsign, hcolon]

@[simp] theorem DateTime.oneLine_displayOffset (minutes : Int) :
    OneLine (displayOffset minutes) := by
  unfold displayOffset
  split
  · decide
  · have hdays : OneLine (if minutes < 0 then "days=-1, " else "") := by split <;> decide
    have hdelta : OneLine "datetime.timezone(datetime.timedelta(" := by decide
    have hseconds : OneLine "seconds=" := by decide
    have hend : OneLine "))" := by decide
    simp [hdays, hdelta, hseconds, hend]

theorem DateTime.oneLine_text (t : DateTime) : OneLine (t.text " ") := by
  have hmicro : OneLine (if t.micro = 0 then "" else "." ++ padded 6 t.micro) := by
    split
    · decide
    · exact oneLine_append.2 ⟨by decide, oneLine_padded 6 t.micro⟩
  have hoffset : OneLine ((t.offset.map offsetText).getD "") := by
    cases t.offset with
    | none => decide
    | some minutes => exact oneLine_offsetText minutes
  have hblank : OneLine " " := by decide
  have hcolon : OneLine ":" := by decide
  simp [DateTime.text, hmicro, hoffset, hblank, hcolon]

theorem DateTime.oneLine_display (t : DateTime) : OneLine t.display := by
  have hzone : OneLine ((t.offset.map fun minutes =>
      ", tzinfo=" ++ displayOffset minutes).getD "") := by
    cases t.offset with
    | none => decide
    | some minutes => exact oneLine_append.2 ⟨by decide, oneLine_displayOffset minutes⟩
  have htime : OneLine "datetime.datetime(" := by decide
  have hend : OneLine ")" := by decide
  unfold DateTime.display
  refine oneLine_append.2 ⟨oneLine_append.2 ⟨oneLine_append.2 ⟨htime, ?_⟩, hzone⟩, hend⟩
  refine oneLine_intercalate (by decide) fun text hmem => ?_
  obtain ⟨n, -, rfl⟩ := List.mem_map.1 hmem
  exact oneLine_repr n

theorem Shortest.oneLine_layout (c : Nat) (s : Int) : OneLine (layout c s) := by
  have hdigits := newline_not_mem_digits
  have htake (n : Nat) : '\n' ∉ (Nat.toDigits 10 c).take n := fun h =>
    hdigits c (List.mem_of_mem_take h)
  have hdrop (n : Nat) : '\n' ∉ (Nat.toDigits 10 c).drop n := fun h =>
    hdigits c (List.mem_of_mem_drop h)
  have htail : '\n' ∉ (Nat.toDigits 10 c).tail := fun h => hdigits c (List.mem_of_mem_tail h)
  unfold layout
  rw [oneLine_ofList]
  dsimp only
  repeat' split
  all_goals simp [hdigits, htake, hdrop, htail]

@[simp] theorem Binary64.oneLine_text {names : Names} (hnan : OneLine names.nan)
    (hinfinity : OneLine names.infinity) (x : Binary64) : OneLine (x.text names) := by
  have hsign (negative : Prop) [Decidable negative] :
      OneLine (if negative then "-" else "") := by split <;> decide
  cases x with
  | nan => exact hnan
  | infinity negative => exact oneLine_append.2 ⟨hsign _, hinfinity⟩
  | negativeZero =>
    show OneLine "-0.0"
    decide
  | finite r =>
    cases r with
    | zero =>
      show OneLine "0.0"
      decide
    | ofOdd n k hn => exact oneLine_append.2 ⟨hsign _, Shortest.oneLine_layout _ _⟩

end

/-! ## Values -/

namespace Value

open Text

theorem oneLine_float (x : Binary64) : OneLine x.display :=
  x.oneLine_text (by decide) (by decide)

mutual

theorem oneLine_display (v : Value) : OneLine v.display := by
  cases v with
  | null =>
    show OneLine "None"
    decide
  | bool b => cases b <;> (unfold display; decide)
  | int n => exact oneLine_intRepr n
  | float x => exact oneLine_float x
  | str s => exact oneLine_quoted s
  | bytes data => exact oneLine_quotedBytes data
  | date d => exact d.oneLine_display
  | datetime t => exact t.oneLine_display
  | list items => exact oneLine_between (by decide) (by decide) (oneLine_displays items)
  | tuple items =>
    match items with
    | [] => exact oneLine_between (by decide) (by decide) (oneLine_displays [])
    | [v] =>
      have hopen : OneLine "(" := by decide
      have hclose : OneLine ",)" := by decide
      simp [display, hopen, hclose, oneLine_display v]
    | v :: w :: rest => 
      exact oneLine_between (by decide) (by decide) (oneLine_displays (v :: w :: rest))
  | map entries => exact oneLine_between (by decide) (by decide) (oneLine_displayEntries entries)
  | set elements =>
    match elements with
    | [] => decide
    | v :: rest => exact oneLine_between (by decide) (by decide) (oneLine_displays (v :: rest))
termination_by structural v

theorem oneLine_displays (items : List Value) : ∀ text ∈ displays items, OneLine text := by
  cases items with
  | nil => exact nofun
  | cons v rest => exact List.forall_mem_cons.2 ⟨oneLine_display v, oneLine_displays rest⟩
termination_by structural items

theorem oneLine_displayEntries (entries : List (Value × Value)) :
    ∀ text ∈ displayEntries entries, OneLine text := by
  match entries with
  | [] => exact nofun
  | (key, v) :: rest =>
    have hcolon : OneLine ": " := by decide
    refine List.forall_mem_cons.2 ⟨?_, oneLine_displayEntries rest⟩
    simp [hcolon, oneLine_display key, oneLine_display v]
termination_by structural entries

end

/-! ## JSON text -/

theorem mem_of_sortByKey {entries ordered : List (Value × String)} {entry : Value × String}
    (h : sortByKey entries = some ordered) (hmem : entry ∈ ordered) : entry ∈ entries := by
  unfold sortByKey at h
  dsimp only at h
  split at h
  · obtain rfl := Option.some.inj h
    exact List.mem_mergeSort.1 hmem
  · cases h

theorem oneLine_newline {layout : JsonLayout} (hlayout : layout.indent = none) (depth : Nat) :
    OneLine (layout.newline depth) := by
  rw [JsonLayout.newline, hlayout]
  show OneLine ""
  decide

theorem oneLine_enclose {layout : JsonLayout} (hlayout : layout.indent = none) {depth : Nat}
    {left right : String} {items : List String} (hleft : OneLine left) (hright : OneLine right)
    (h : ∀ text ∈ items, OneLine text) : OneLine (layout.enclose depth left right items) := by
  unfold JsonLayout.enclose
  split
  · exact oneLine_append.2 ⟨hleft, hright⟩
  · have hcomma : OneLine ", " := by decide
    simp [hlayout, hleft, hright, oneLine_newline hlayout, oneLine_intercalate hcomma h]

mutual

/-- JSON text that is not indented is on one line. -/
theorem oneLine_jsonAt {layout : JsonLayout} (hlayout : layout.indent = none) (v : Value)
    (depth : Nat) {text : String} (h : v.jsonAt layout depth = some text) : OneLine text := by
  cases v with
  | null =>
    obtain rfl := Option.some.inj h
    decide
  | bool b =>
    obtain rfl := Option.some.inj h
    cases b <;> decide
  | int n =>
    obtain rfl := Option.some.inj h
    exact oneLine_intRepr n
  | float x =>
    obtain rfl := Option.some.inj h
    exact x.oneLine_text (by decide) (by decide)
  | str s =>
    obtain rfl := Option.some.inj h
    exact oneLine_jsonQuoted s
  | list items =>
    obtain ⟨texts, htexts, rfl⟩ := Option.map_eq_some_iff.1 h
    exact oneLine_enclose hlayout (by decide) (by decide) (oneLine_jsonItems hlayout items _ htexts)
  | tuple items =>
    obtain ⟨texts, htexts, rfl⟩ := Option.map_eq_some_iff.1 h
    exact oneLine_enclose hlayout (by decide) (by decide) (oneLine_jsonItems hlayout items _ htexts)
  | map entries =>
    rw [jsonAt_map] at h
    obtain ⟨written, hwritten, h⟩ := Option.bind_eq_some_iff.1 h
    obtain ⟨ordered, hordered, rfl⟩ := Option.map_eq_some_iff.1 h
    have hentries := oneLine_jsonEntries hlayout entries _ hwritten
    refine oneLine_enclose hlayout (by decide) (by decide)
      (List.forall_mem_map.2 fun entry hmem => ?_)
    split at hordered
    · exact hentries entry (mem_of_sortByKey hordered hmem)
    · obtain rfl := Option.some.inj hordered
      exact hentries entry hmem
  | bytes | date | datetime | set => cases h
termination_by structural v

theorem oneLine_jsonItems {layout : JsonLayout} (hlayout : layout.indent = none)
    (items : List Value) (depth : Nat) {texts : List String}
    (h : jsonItems layout depth items = some texts) : ∀ text ∈ texts, OneLine text := by
  cases items with
  | nil =>
    obtain rfl := Option.some.inj h
    exact nofun
  | cons v rest =>
    obtain ⟨first, hfirst, h⟩ := Option.bind_eq_some_iff.1 h
    obtain ⟨others, hothers, h⟩ := Option.bind_eq_some_iff.1 h
    obtain rfl := Option.some.inj h
    exact List.forall_mem_cons.2
      ⟨oneLine_jsonAt hlayout v depth hfirst, oneLine_jsonItems hlayout rest depth hothers⟩
termination_by structural items

theorem oneLine_jsonEntries {layout : JsonLayout} (hlayout : layout.indent = none)
    (entries : List (Value × Value)) (depth : Nat) {written : List (Value × String)}
    (h : jsonEntries layout depth entries = some written) :
    ∀ entry ∈ written, OneLine entry.2 := by
  match entries with
  | [] =>
    obtain rfl := Option.some.inj h
    exact nofun
  | (key, v) :: rest =>
    obtain ⟨name, hname, h⟩ := Option.bind_eq_some_iff.1 h
    obtain ⟨value, hvalue, h⟩ := Option.bind_eq_some_iff.1 h
    obtain ⟨others, hothers, h⟩ := Option.bind_eq_some_iff.1 h
    obtain rfl := Option.some.inj h
    refine List.forall_mem_cons.2 ⟨?_, oneLine_jsonEntries hlayout rest depth hothers⟩
    have hcolon : OneLine ": " := by decide
    simp [hcolon, oneLine_jsonAt hlayout v depth hvalue]
termination_by structural entries

end

/-- Of all plain texts only a string can have line ends. -/
theorem oneLine_text_iff (v : Value) : OneLine v.text ↔ ∀ s, v = .str s → OneLine s := by
  cases v with
  | str s =>
    constructor
    · rintro h t ht
      rwa [← str.inj ht]
    · intro h
      exact h s rfl
  | date d => exact iff_of_true d.oneLine_text nofun
  | datetime t => exact iff_of_true t.oneLine_text nofun
  | _ => exact iff_of_true (oneLine_display _) nofun

end Value

end Conform

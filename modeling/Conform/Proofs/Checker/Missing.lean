import Conform.Proofs.Checker.Congruence
import Conform.Proofs.Checker.Message

/-!
# Missing properties

A property that is reported as missing is missing: the path of the violation is that of a mapping in
the value, followed by a key that the mapping has not got (`Checker.lacks_of_collect`). The keys of
the value are strings here, since a key that only coincides with the name of a field would not be
the one in the path.
-/

namespace Conform

namespace Value

/-- The path leads to a mapping, and on to a key that the mapping has not got. -/
def Lacks (v : Value) (path : Pointer.Path) : Prop :=
  ∃ above entries name,
    path = above ++ [name] ∧ v.At above (.map entries) ∧ lookup name entries = none

section
variable {v w key : Value} {path : Pointer.Path}

theorem Lacks.item {items : List Value} {index : Nat} (h : w.Lacks path)
    (hitems : v.items? = some items) (hitem : items[index]? = some w) :
    v.Lacks (.int index :: path) := by
  obtain ⟨above, entries, name, rfl, hat, hnone⟩ := h
  exact ⟨_, entries, name, rfl, .item hitems hitem hat, hnone⟩

theorem Lacks.entry {entries : List (Value × Value)} (h : v.Lacks path)
    (hentry : (key, v) ∈ entries) : (Value.map entries).Lacks (key :: path) := by
  obtain ⟨above, fields, name, rfl, hat, hnone⟩ := h
  exact ⟨_, fields, name, rfl, .entry hentry hat, hnone⟩

/-- Among strings the key that is found is the one that was looked for. -/
theorem StringKeys.mem_of_lookup {entries : List (Value × Value)}
    (h : (Value.map entries).StringKeys) (hv : lookup key entries = some v) :
    (key, v) ∈ entries := by
  obtain ⟨⟨found, w⟩, hfound, rfl⟩ := Option.map_eq_some_iff.1 hv
  have hmem := List.mem_of_find?_eq_some hfound
  have hsame : key.same found = true := by simpa using List.find?_some hfound
  obtain ⟨s, rfl⟩ := h found ⟨entries, .here, List.mem_map_of_mem hmem⟩
  rwa [same_str_iff.1 hsame]

end

end Value

/-- A property that the violation says is missing is missing in a value at a path. -/
def Violation.LacksIn (v : Value) (path : Pointer.Path) (x : Violation) : Prop :=
  x.kind = .missingRequired → ∃ rest, x.path = path ++ rest ∧ v.Lacks rest

section
variable {v w : Value} {path : Pointer.Path} {x : Violation}

theorem lacksIn_of {place : Pointer.Path} {kind : ViolationKind} {detail : Value}
    (h : kind ≠ .missingRequired) : (Violation.of place kind detail).LacksIn v path :=
  fun hkind => absurd hkind h

theorem Violation.LacksIn.step {key : Value} (h : x.LacksIn w (path ++ [key]))
    (hstep : ∀ rest, w.Lacks rest → v.Lacks (key :: rest)) : x.LacksIn v path := by
  intro hkind
  obtain ⟨rest, hpath, hlacks⟩ := h hkind
  rw [List.append_assoc] at hpath
  exact ⟨_, hpath, hstep rest hlacks⟩

end

namespace Checker

mutual

theorem lacks_of_collect (c : Checker) {v : Value} (hkeys : v.StringKeys) (path : Pointer.Path) :
    AllReported (Violation.LacksIn v path) (c.collect v path) := by
  cases c with
  | primitive kind rs =>
    simp only [collect]
    split
    · refine allReported_violations fun r _ => lacksIn_of ?_
      cases r <;> exact nofun
    · exact allReported_of (lacksIn_of (by decide))
  | literal expected => exact allReported_unless (lacksIn_of (by decide))
  | list item minItems maxItems =>
    simp only [collect]
    cases hitems : v.items? with
    | none => exact allReported_of (lacksIn_of (by decide))
    | some items =>
      have hcounts : AllReported (Violation.LacksIn v path)
          (.ok (countViolations minItems maxItems items.length path)) :=
        (allReported_unless (lacksIn_of (by decide))).append
          (allReported_unless (lacksIn_of (by decide)))
      refine hcounts.append (allReported_collectFrom fun index w hw => ?_)
      rw [Nat.zero_add]
      have hpart := hkeys.of_part fun _ => .item hitems (List.mem_of_getElem? hw)
      exact (lacks_of_collect item hpart _).imp fun x hx =>
        hx.step fun rest hrest => hrest.item hitems hw
  | object fields strict =>
    cases v with
    | map entries =>
      refine (lacks_of_collectFields fields hkeys path).append (allReported_ok ?_)
      exact List.forall_mem_map.2 fun key _ => lacksIn_of (by decide)
    | _ => exact allReported_of (lacksIn_of (by decide))
  | union options =>
    simp only [collect]
    cases acceptsAny options v with
    | error fault => exact nofun
    | ok accepted => exact allReported_unless (lacksIn_of (by decide))
termination_by structural c

theorem lacks_of_collectFields (fields : List FieldChecker) {entries : List (Value × Value)}
    (hkeys : (Value.map entries).StringKeys) (path : Pointer.Path) :
    AllReported (Violation.LacksIn (.map entries) path) (collectFields fields entries path) := by
  cases fields with
  | nil => exact allReported_ok (List.forall_mem_nil _)
  | cons field rest =>
    exact (lacks_of_collectField field hkeys path).append
      (lacks_of_collectFields rest hkeys path)
termination_by structural fields

theorem lacks_of_collectField (field : FieldChecker) {entries : List (Value × Value)}
    (hkeys : (Value.map entries).StringKeys) (path : Pointer.Path) :
    AllReported (Violation.LacksIn (.map entries) path) (collectField field entries path) := by
  cases field with
  | mk name required checker =>
    simp only [collectField]
    cases hlookup : Value.lookup name entries with
    | some v =>
      have hmem := hkeys.mem_of_lookup hlookup
      have hpart := hkeys.of_part fun _ => .entry hmem
      exact (lacks_of_collect checker hpart _).imp fun x hx =>
        hx.step fun rest hrest => hrest.entry hmem
    | none =>
      exact allReported_unless fun _ => ⟨[name], rfl, [], entries, name, rfl, .root, hlookup⟩
termination_by structural field

end

end Checker

end Conform

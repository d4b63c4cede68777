import Conform.Checker
import Conform.Proofs.Outcome

/-!
# Reports and messages

What a checker reports is put together from the reports on parts. A property that every violation of
the parts has is carried through the steps (`AllReported`).

What a checker reports of a value has the messages of the kinds (`Checker.canonical_of_collect`):
nothing but the kind and a detail goes into a message. The induction is over the checker.
-/

namespace Conform

/-- All that is reported, if there is a report, has a property. -/
def AllReported (p : Violation → Prop) (report : Except Fault (List Violation)) : Prop :=
  ∀ violations, report = .ok violations → ∀ v ∈ violations, p v

section
variable {p q : Violation → Prop} {x y : Except Fault (List Violation)} {path : Pointer.Path}
  {kind : ViolationKind} {detail : Value}

theorem allReported_ok {violations : List Violation} (h : ∀ v ∈ violations, p v) :
    AllReported p (.ok violations) := by
  intro found hfound
  obtain rfl := Except.ok.inj hfound
  exact h

theorem allReported_of (h : p (.of path kind detail)) :
    AllReported p (.ok [.of path kind detail]) :=
  allReported_ok (List.forall_mem_singleton.2 h)

theorem allReported_unless {holds : Bool} (h : p (.of path kind detail)) :
    AllReported p (.ok (violationUnless holds path kind detail)) := by
  cases holds with
  | true => exact allReported_ok (List.forall_mem_nil _)
  | false => exact allReported_of h

theorem AllReported.imp (h : AllReported p x) (hpq : ∀ v, p v → q v) : AllReported q x :=
  fun violations hx v hv => hpq v (h violations hx v hv)

theorem AllReported.append (hx : AllReported p x) (hy : AllReported p y) :
    AllReported p (do
      let found ← x
      let others ← y
      .ok (found ++ others)) := by
  intro violations h
  obtain ⟨found, hfound, h⟩ := bind_eq_ok.1 h
  obtain ⟨others, hothers, h⟩ := bind_eq_ok.1 h
  obtain rfl := Except.ok.inj h
  exact List.forall_mem_append.2 ⟨hx found hfound, hy others hothers⟩

theorem allReported_collectFrom {f : Nat → Value → Except Fault (List Violation)} :
    ∀ {items : List Value} {start : Nat},
      (∀ index v, items[index]? = some v → AllReported p (f (start + index) v)) →
      AllReported p (collectFrom f start items)
  | [], _, _ => allReported_ok (List.forall_mem_nil _)
  | v :: items, start, h => by
    refine (h 0 v rfl).append (allReported_collectFrom fun index w hw => ?_)
    rw [Nat.add_right_comm]
    exact h (index + 1) w hw

theorem allReported_violations {v : Value} : ∀ {rs : List Refinement},
    (∀ r ∈ rs, p (.of path r.kind r.detail)) → AllReported p (Refinement.violations rs v path)
  | [], _ => allReported_ok (List.forall_mem_nil _)
  | r :: rs, h => by
    obtain ⟨hr, hrs⟩ := List.forall_mem_cons.1 h
    unfold Refinement.violations
    cases r.holds v with
    | error fault => exact nofun
    | ok holds => exact (allReported_unless hr).append (allReported_violations hrs)

end

/-! ## Messages -/

/-- The message is that of the kind, for some detail. -/
def Violation.IsCanonical (v : Violation) : Prop := ∃ detail, v.message = v.kind.message detail

/-- All that is reported, if there is a report, has the message of its kind. -/
def Canonical (report : Except Fault (List Violation)) : Prop :=
  ∀ violations, report = .ok violations → ∀ v ∈ violations, v.IsCanonical

theorem isCanonical_of (path : Pointer.Path) (kind : ViolationKind) (detail : Value) :
    (Violation.of path kind detail).IsCanonical := ⟨detail, rfl⟩

theorem canonical_of (path : Pointer.Path) (kind : ViolationKind) (detail : Value) :
    Canonical (.ok [.of path kind detail]) :=
  allReported_of (isCanonical_of path kind detail)

theorem canonical_unless (holds : Bool) (path : Pointer.Path) (kind : ViolationKind)
    (detail : Value) : Canonical (.ok (violationUnless holds path kind detail)) :=
  allReported_unless (isCanonical_of path kind detail)

theorem Canonical.append {x y : Except Fault (List Violation)} (hx : Canonical x)
    (hy : Canonical y) :
    Canonical (do
      let found ← x
      let others ← y
      .ok (found ++ others)) :=
  AllReported.append hx hy

namespace Checker

mutual

/-- What a checker reports has the messages of the kinds. -/
theorem canonical_of_collect (c : Checker) (v : Value) (path : Pointer.Path) :
    Canonical (c.collect v path) := by
  cases c with
  | primitive kind rs =>
    simp only [collect]
    split
    · exact allReported_violations fun r _ => isCanonical_of path r.kind r.detail
    · exact canonical_of _ _ _
  | literal expected => exact canonical_unless _ _ _ _
  | list item minItems maxItems =>
    simp only [collect]
    cases v.items? with
    | none => exact canonical_of _ _ _
    | some items =>
      have hinner : Canonical
          (collectFrom (fun index w => item.collect w (path ++ [.int index])) 0 items) :=
        allReported_collectFrom fun _ w _ => canonical_of_collect item w _
      have hcounts : Canonical (.ok (countViolations minItems maxItems items.length path)) :=
        (canonical_unless _ _ _ _).append (canonical_unless _ _ _ _)
      exact hcounts.append hinner
  | object fields strict =>
    cases v with
    | map entries =>
      refine (canonical_of_collectFields fields entries path).append (allReported_ok ?_)
      exact List.forall_mem_map.2 fun key _ => isCanonical_of _ _ _
    | _ => exact canonical_of _ _ _
  | union options =>
    simp only [collect]
    cases acceptsAny options v with
    | error fault => exact nofun
    | ok accepted => exact canonical_unless _ _ _ _
termination_by structural c

theorem canonical_of_collectFields (fields : List FieldChecker) (entries : List (Value × Value))
    (path : Pointer.Path) : Canonical (collectFields fields entries path) := by
  cases fields with
  | nil => exact allReported_ok (List.forall_mem_nil _)
  | cons field rest =>
    exact (canonical_of_collectField field entries path).append
      (canonical_of_collectFields rest entries path)
termination_by structural fields

theorem canonical_of_collectField (field : FieldChecker) (entries : List (Value × Value))
    (path : Pointer.Path) : Canonical (collectField field entries path) := by
  cases field with
  | mk name required checker =>
    simp only [collectField]
    cases Value.lookup name entries with
    | some v => exact canonical_of_collect checker v (path ++ [name])
    | none => exact canonical_unless _ _ _ _
termination_by structural field

end

end Checker

end Conform

import BuildScope.Builder.TryBuilders
import BuildScope.Proofs.Text.ByteOrder
import Mathlib.Logic.Relation

/-!
# The Order of Lookups

The builders of which the manifest does not tell are looked up in parallel. Lookups begin and end in
any order, several may be under way at a time, and once one has failed the others need not begin.
What comes of it is the same however they are scheduled: all mirrors, or all builders without
output, or the fault of some lookup.

A lookup shares nothing with the others but the client, which may be any, is taken to give each
builder a fixed answer, and is made to note who has been asked for. A step of `LookupStep` lets one
lookup begin, as the program performs it, or come to its end. `Progress.Sound` is what every step
preserves.

## Main results

* `TryBuilders.Settled`: what the lookups of some builders must lead to.
* `Progress.Sound.settled`: they do, however they are scheduled.
* `LookupStep.exists_ends`: lookups that have begun somehow can be brought to their end.
* `TryBuilders.settled_any_order`: the same of looking up builders in turn, in any order.
-/

namespace BuildScope

open Buildbucket (QueryFault)
open Mirrors (MirrorFault)
open TryBuilders (MirrorsFault ofLookups lookUpAll ofBuilders missingNames)

/-- What a client says of each builder: the output of a build, nothing, or why it does not
answer. -/
abbrev Answers (ε : Type) := Builder → Except ε (Option String)

/-- A client with fixed answers that notes, in order, who has been asked for. -/
def Answers.recorded {ε : Type} (answers : Answers ε) : Client ε (StateM (List Builder)) :=
  fun builder asked => (answers builder, asked ++ [builder])

/-- The manifest alone tells about a builder. -/
def Manifest.TellsOf (manifest : Manifest) (builder : Builder) : Prop :=
  builder ∈ manifest.nonChromium ∨ builder ∈ manifest.fakes

variable {ε : Type} {manifest : Manifest} {answers : Answers ε} {builder : Builder}
  {builders : BuilderSet}

/-- A manifest tells of the fake builders that it lists. -/
theorem Manifest.tellsOf_of_listed {mirrors : BuilderSet}
    (h : manifest.fakes[builder]? = some mirrors) : manifest.TellsOf builder :=
  .inr (Std.ExtTreeMap.mem_iff_isSome_getElem?.2 (by rw [h, Option.isSome_some]))

/-! ## What a lookup comes to -/

namespace Lookup

/-- The lookup of a builder fails. -/
inductive Fails (manifest : Manifest) (answers : Answers ε) (builder : Builder) :
    LookupFault ε → Prop
  | query {fault : ε} (told : ¬ manifest.TellsOf builder)
      (answer : answers builder = .error fault) : Fails manifest answers builder (.query fault)
  | mirrors {output : String} {fault : MirrorFault} (told : ¬ manifest.TellsOf builder)
      (answer : answers builder = .ok (some output))
      (parsed : Mirrors.ofOutput builder output = .error fault) :
      Fails manifest answers builder (.mirrors fault)

/-- The client has no output of a builder. -/
def IsAbsent (manifest : Manifest) (answers : Answers ε) (builder : Builder) : Prop :=
  ¬ manifest.TellsOf builder ∧ answers builder = .ok none

/-- A try builder mirrors a builder. -/
inductive Mirrored (manifest : Manifest) (answers : Answers ε) (builder : Builder) :
    Builder → Prop
  | fake {mirrors : BuilderSet} {mirror : Builder} (chromium : builder ∉ manifest.nonChromium)
      (listed : manifest.fakes[builder]? = some mirrors) (mem : mirror ∈ mirrors) :
      Mirrored manifest answers builder mirror
  | built {output : String} {mirrors : List Builder} {mirror : Builder}
      (told : ¬ manifest.TellsOf builder) (answer : answers builder = .ok (some output))
      (parsed : Mirrors.ofOutput builder output = .ok mirrors) (mem : mirror ∈ mirrors) :
      Mirrored manifest answers builder mirror

/-- What the lookup of a builder comes to. -/
def result (manifest : Manifest) (answers : Answers ε) (builder : Builder) :
    Except (LookupFault ε) Lookup :=
  match ofManifest? manifest builder with
  | some lookup => .ok lookup
  | none => ofAnswer builder (answers builder)

/-- The service is asked about a builder that the manifest does not tell of. -/
theorem ofManifest?_eq_none_iff :
    ofManifest? manifest builder = none ↔ ¬ manifest.TellsOf builder := by
  rw [Manifest.TellsOf, Std.ExtTreeMap.mem_iff_isSome_getElem?, ofManifest?]
  split
  next h => simp [h]
  next h => simp [h]

/-- A lookup asks the client if the manifest does not tell. -/
theorem run_ofBuilder (asked : List Builder) :
    (ofBuilder manifest answers.recorded builder).run asked =
      (result manifest answers builder, asked ++ TryBuilders.asked manifest [builder]) := by
  unfold ofBuilder result
  cases h : ofManifest? manifest builder with
  | some lookup => simp [TryBuilders.asked, h]; rfl
  | none => simp [TryBuilders.asked, h]; rfl

/-- The ways in which a lookup can end. -/
inductive Outcome (manifest : Manifest) (answers : Answers ε) (builder : Builder) :
    Except (LookupFault ε) Lookup → Prop
  | nonChromium (foreign : builder ∈ manifest.nonChromium) :
      Outcome manifest answers builder (.ok .nonChromium)
  | fake {mirrors : BuilderSet} (chromium : builder ∉ manifest.nonChromium)
      (listed : manifest.fakes[builder]? = some mirrors) :
      Outcome manifest answers builder (.ok (.fake mirrors))
  | missing (absent : IsAbsent manifest answers builder) :
      Outcome manifest answers builder (.ok .missing)
  | built {output : String} {mirrors : List Builder} (told : ¬ manifest.TellsOf builder)
      (answer : answers builder = .ok (some output))
      (parsed : Mirrors.ofOutput builder output = .ok mirrors) :
      Outcome manifest answers builder (.ok (.built mirrors))
  | failed {fault : LookupFault ε} (fails : Fails manifest answers builder fault) :
      Outcome manifest answers builder (.error fault)

/-- The result of a lookup is what its outcome should be. -/
theorem outcome_result (manifest : Manifest) (answers : Answers ε) (builder : Builder) :
    Outcome manifest answers builder (result manifest answers builder) := by
  unfold result
  cases htold : ofManifest? manifest builder with
  | some lookup =>
    unfold ofManifest? at htold
    split at htold
    next hforeign =>
      cases htold
      exact .nonChromium hforeign
    next hforeign =>
      obtain ⟨mirrors, hlisted, rfl⟩ := Option.map_eq_some_iff.1 htold
      exact .fake hforeign hlisted
  | none =>
    have htold := ofManifest?_eq_none_iff.1 htold
    -- only what the manifest does not tell is asked for
    cases hanswer : answers builder with
    | error fault => exact .failed (.query htold hanswer)
    | ok output =>
      cases output with
      | none => exact .missing ⟨htold, hanswer⟩
      | some output =>
        dsimp only [ofAnswer]
        cases hparsed : Mirrors.ofOutput builder output with
        | error fault => exact .failed (.mirrors htold hanswer hparsed)
        | ok mirrors => exact .built htold hanswer hparsed

/-- A lookup fails if asking the service does, or reading its answer. -/
theorem result_eq_error_iff {fault : LookupFault ε} :
    result manifest answers builder = .error fault ↔ Fails manifest answers builder fault := by
  constructor
  · intro h
    have houtcome := outcome_result manifest answers builder
    rw [h] at houtcome
    cases houtcome with
    | failed fails => exact fails
  · rintro (⟨told, answer⟩ | ⟨told, answer, parsed⟩)
    · rw [result, ofManifest?_eq_none_iff.2 told, answer]
      rfl
    · rw [result, ofManifest?_eq_none_iff.2 told, answer]
      simp only [ofAnswer, parsed]

/-- A builder is missing if the service does not know it. -/
theorem isMissing_iff {lookup : Lookup} (h : result manifest answers builder = .ok lookup) :
    lookup.isMissing ↔ IsAbsent manifest answers builder := by
  have houtcome := outcome_result manifest answers builder
  rw [h] at houtcome
  -- the manifest tells of a builder that has been found without an answer
  cases houtcome with
  | nonChromium foreign => simp [isMissing, IsAbsent, Manifest.TellsOf, foreign]
  | fake chromium listed => simp [isMissing, IsAbsent, Manifest.tellsOf_of_listed listed]
  | missing absent => simp [isMissing, absent]
  | built told answer parsed => simp [isMissing, IsAbsent, answer]

/-- The mirrors of a lookup are those that the manifest or the service tells of. -/
theorem mem_mirrors_iff {lookup : Lookup} (h : result manifest answers builder = .ok lookup)
    {mirror : Builder} : mirror ∈ lookup.mirrors ↔ Mirrored manifest answers builder mirror := by
  have houtcome := outcome_result manifest answers builder
  rw [h] at houtcome
  -- the manifest and the answer settle a builder in one way only
  cases houtcome with
  | nonChromium foreign =>
    simp only [mirrors, Std.ExtTreeSet.not_mem_empty, false_iff]
    rintro (⟨chromium, -, -⟩ | ⟨told, -, -, -⟩)
    · exact chromium foreign
    · exact told (.inl foreign)
  | fake chromium listed =>
    constructor
    · intro hmirror
      exact .fake chromium listed hmirror
    · rintro (⟨-, listed', hmirror⟩ | ⟨told, -, -, -⟩)
      · rw [listed] at listed'
        cases listed'
        exact hmirror
      · exact absurd (Manifest.tellsOf_of_listed listed) told
  | missing absent =>
    obtain ⟨told, answer⟩ := absent
    simp only [mirrors, Std.ExtTreeSet.not_mem_empty, false_iff]
    rintro (⟨-, listed, -⟩ | ⟨-, answer', -, -⟩)
    · exact told (Manifest.tellsOf_of_listed listed)
    · rw [answer] at answer'
      cases answer'
  | built told answer parsed =>
    rw [mirrors, Std.ExtTreeSet.mem_ofList, List.contains_iff_mem]
    constructor
    · intro hmirror
      exact .built told answer parsed hmirror
    · rintro (⟨-, listed, -⟩ | ⟨-, answer', parsed', hmirror⟩)
      · exact absurd (Manifest.tellsOf_of_listed listed) told
      · rw [answer] at answer'
        cases answer'
        rw [parsed] at parsed'
        cases parsed'
        exact hmirror

end Lookup

/-! ## Lookups under way -/

/-- How far some lookups have come. -/
structure Progress (ε : Type) where
  /-- Builders whose lookups have not begun. -/
  waiting : List Builder
  /-- Lookups that have begun and not ended, with what they will come to. -/
  underWay : List (Builder × Except (LookupFault ε) Lookup) := []
  /-- Lookups that have ended well. -/
  found : List (Builder × Lookup) := []
  /-- The fault of a lookup that has failed. -/
  fault? : Option (LookupFault ε) := none
  /-- Whom the client has been asked for. -/
  asked : List Builder := []

namespace Progress

/-- The lookup of a builder begins. -/
def begin (progress : Progress ε) (manifest : Manifest) (answers : Answers ε) (builder : Builder) :
    Progress ε :=
  let (result, asked) := (Lookup.ofBuilder manifest answers.recorded builder).run progress.asked
  { progress with
    waiting := progress.waiting.erase builder
    underWay := (builder, result) :: progress.underWay
    asked }

/-- A lookup has ended, and others are still under way. Of several faults the first is kept. -/
def settle (progress : Progress ε) (underWay : List (Builder × Except (LookupFault ε) Lookup))
    (builder : Builder) : Except (LookupFault ε) Lookup → Progress ε
  | .ok lookup => { progress with underWay, found := (builder, lookup) :: progress.found }
  | .error fault => { progress with underWay, fault? := progress.fault?.or (some fault) }

/-- All lookups that have begun have ended, and they have come to a result: the fault that is kept,
or else what all lookups add up to, put together in any order. -/
def Ends (progress : Progress ε) (result : Except (MirrorsFault ε) BuilderSet) : Prop :=
  progress.underWay = [] ∧
    match progress.fault? with
    | some fault => result = .error (.lookup fault)
    | none =>
      progress.waiting = [] ∧
        ∃ lookups, lookups.Perm progress.found ∧ result = ofLookups lookups

end Progress

/-- One lookup begins or ends. -/
inductive LookupStep (manifest : Manifest) (answers : Answers ε) : Progress ε → Progress ε → Prop
  | begin {progress : Progress ε} {builder : Builder} (waits : builder ∈ progress.waiting) :
      LookupStep manifest answers progress (progress.begin manifest answers builder)
  | settle {progress : Progress ε} {first last : List (Builder × Except (LookupFault ε) Lookup)}
      {builder : Builder} {result : Except (LookupFault ε) Lookup}
      (split : progress.underWay = first ++ (builder, result) :: last) :
      LookupStep manifest answers progress (progress.settle (first ++ last) builder result)

namespace Progress

/-- What holds of the lookups of some builders, however far they have come. -/
structure Sound (manifest : Manifest) (answers : Answers ε) (builders : BuilderSet)
    (progress : Progress ε) : Prop where
  underWay_eq : ∀ looked ∈ progress.underWay,
    looked.1 ∈ builders ∧ looked.2 = Lookup.result manifest answers looked.1
  found_eq : ∀ looked ∈ progress.found, Lookup.result manifest answers looked.1 = .ok looked.2
  fault_of : ∀ fault ∈ progress.fault?,
    ∃ builder ∈ builders, Lookup.Fails manifest answers builder fault
  -- a lookup that fails is kept as its fault only
  complete : progress.fault? = none →
    (progress.found.map Prod.fst ++ progress.underWay.map Prod.fst ++ progress.waiting).Perm
      builders.toList
  waiting_subset : progress.waiting ⊆ builders.toList
  asked_perm : (progress.asked ++ TryBuilders.asked manifest progress.waiting).Perm
    (TryBuilders.asked manifest builders.toList)

/-- It holds before any lookup has begun. -/
theorem sound_start (manifest : Manifest) (answers : Answers ε) {order : List Builder}
    (h : order.Perm builders.toList) :
    Sound manifest answers builders { waiting := order } where
  underWay_eq := by simp
  found_eq := by simp
  fault_of := by simp
  complete := by simpa using h
  waiting_subset := h.subset
  asked_perm := h.filter _

variable {progress : Progress ε}

theorem begin_eq (progress : Progress ε) (manifest : Manifest) (answers : Answers ε)
    (builder : Builder) :
    progress.begin manifest answers builder =
      { progress with
        waiting := progress.waiting.erase builder
        underWay := (builder, Lookup.result manifest answers builder) :: progress.underWay
        asked := progress.asked ++ TryBuilders.asked manifest [builder] } := by
  rw [begin, Lookup.run_ofBuilder]

/-- It is kept when a lookup begins. -/
theorem Sound.begin (h : progress.Sound manifest answers builders)
    (hwaits : builder ∈ progress.waiting) :
    (progress.begin manifest answers builder).Sound manifest answers builders := by
  have hperm := List.perm_cons_erase hwaits
  rw [begin_eq]
  refine ⟨?_, h.found_eq, h.fault_of, ?_, ?_, ?_⟩
  · rintro looked (_ | ⟨_, hlooked⟩)
    · exact ⟨Std.ExtTreeSet.mem_toList.1 (h.waiting_subset hwaits), rfl⟩
    · exact h.underWay_eq looked hlooked
  · -- a builder that no longer waits is under way
    intro hnone
    refine List.Perm.trans ?_ (h.complete hnone)
    dsimp only
    rw [List.map_cons, List.append_assoc, List.append_assoc, List.cons_append]
    refine List.Perm.append_left _ ?_
    exact List.perm_middle.symm.trans (hperm.symm.append_left _)
  · exact fun other hother => h.waiting_subset (List.mem_of_mem_erase hother)
  · refine List.Perm.trans ?_ h.asked_perm
    dsimp only
    rw [List.append_assoc, TryBuilders.asked, TryBuilders.asked, ← List.filter_append]
    exact (hperm.symm.filter _).append_left _

/-- It is kept when a lookup comes to its end, well or not. -/
theorem Sound.settle (h : progress.Sound manifest answers builders)
    {first last : List (Builder × Except (LookupFault ε) Lookup)}
    {result : Except (LookupFault ε) Lookup}
    (hsplit : progress.underWay = first ++ (builder, result) :: last) :
    (progress.settle (first ++ last) builder result).Sound manifest answers builders := by
  have hperm : progress.underWay.Perm ((builder, result) :: (first ++ last)) := by
    rw [hsplit]
    exact List.perm_middle
  have hunderWay : ∀ looked ∈ first ++ last, looked ∈ progress.underWay :=
    fun looked hlooked => hperm.symm.subset (List.mem_cons_of_mem _ hlooked)
  obtain ⟨hmem, hresult⟩ := h.underWay_eq _ (hperm.symm.subset List.mem_cons_self)
  cases result with
  | ok lookup =>
    refine ⟨fun looked hlooked => h.underWay_eq looked (hunderWay looked hlooked), ?_, h.fault_of,
      ?_, h.waiting_subset, h.asked_perm⟩
    · rintro looked (_ | ⟨_, hlooked⟩)
      · exact hresult.symm
      · exact h.found_eq looked hlooked
    · intro hnone
      refine List.Perm.trans ?_ (h.complete hnone)
      refine List.Perm.append_right _ ?_
      dsimp only [Progress.settle]
      rw [List.map_cons, List.cons_append]
      exact List.perm_middle.symm.trans ((hperm.map Prod.fst).symm.append_left _)
  | error fault =>
    refine ⟨fun looked hlooked => h.underWay_eq looked (hunderWay looked hlooked), h.found_eq, ?_,
      ?_, h.waiting_subset, h.asked_perm⟩
    · intro kept hkept
      -- the fault that is kept was kept before, or is that of the lookup
      rcases Option.or_eq_some_iff.1 hkept with hkept | ⟨-, hkept⟩
      · exact h.fault_of kept hkept
      · cases hkept
        exact ⟨builder, hmem, Lookup.result_eq_error_iff.1 hresult.symm⟩
    · intro hnone
      simp [Progress.settle] at hnone

end Progress

/-- Every step keeps it. -/
theorem LookupStep.sound {progress next : Progress ε}
    (hstep : LookupStep manifest answers progress next)
    (h : progress.Sound manifest answers builders) : next.Sound manifest answers builders := by
  cases hstep with
  | begin waits => exact h.begin waits
  | settle split => exact h.settle split

/-- However lookups are scheduled, they stay sound. -/
theorem LookupStep.sound_of_steps {progress later : Progress ε}
    (hsteps : Relation.ReflTransGen (LookupStep manifest answers) progress later)
    (h : progress.Sound manifest answers builders) : later.Sound manifest answers builders := by
  induction hsteps with
  | refl => exact h
  | tail _ hstep ih => exact hstep.sound ih

/-! ## What lookups lead to -/

/-- A fault on which the program panics instead of returning it. -/
def LookupFault.IsPanic (fault : LookupFault ε) : Prop :=
  ∃ found name parts, fault = .mirrors (.malformedName found name parts)

namespace TryBuilders

/-- What the lookups of some builders must lead to, and whom the client must have been asked for by
then. -/
structure Settled (manifest : Manifest) (answers : Answers ε) (builders : BuilderSet)
    (result : Except (MirrorsFault ε) BuilderSet) (asked : List Builder) : Prop where
  /-- Builders without output are reported by their names, in the order of the bytes. -/
  missing : (∀ builder ∈ builders, ∀ fault, ¬ Lookup.Fails manifest answers builder fault) →
    (∃ builder ∈ builders, Lookup.IsAbsent manifest answers builder) →
    ∃ absent : List Builder, absent.Nodup ∧
      (∀ builder, builder ∈ absent ↔
        builder ∈ builders ∧ Lookup.IsAbsent manifest answers builder) ∧
      ∃ names : List String, names.Perm (absent.map Builder.name) ∧
        names.Pairwise (fun a b => Text.bytes a ≤ Text.bytes b) ∧
        result = .error (.missing names)
  /-- Otherwise the mirrors are those of all builders. -/
  found : (∀ builder ∈ builders, ∀ fault, ¬ Lookup.Fails manifest answers builder fault) →
    (∀ builder ∈ builders, ¬ Lookup.IsAbsent manifest answers builder) →
    ∃ mirrors, result = .ok mirrors ∧ ∀ mirror, mirror ∈ mirrors ↔
      ∃ builder ∈ builders, Lookup.Mirrored manifest answers builder mirror
  /-- Each builder of which the manifest does not tell has been asked for once, and no other. -/
  asked_once : (∀ builder ∈ builders, ∀ fault, ¬ Lookup.Fails manifest answers builder fault) →
    asked.Nodup ∧ ∀ builder, builder ∈ asked ↔ builder ∈ builders ∧ ¬ manifest.TellsOf builder
  /-- If lookups fail, and none panics, the fault of one of them is reported. -/
  failed : (∃ builder ∈ builders, ∃ fault, Lookup.Fails manifest answers builder fault) →
    (∀ builder ∈ builders, ∀ fault, Lookup.Fails manifest answers builder fault →
      ¬ fault.IsPanic) →
    ∃ builder ∈ builders, ∃ fault, Lookup.Fails manifest answers builder fault ∧
      ¬ fault.IsPanic ∧ result = .error (.lookup fault)

theorem nodup_toList (builders : BuilderSet) : builders.toList.Nodup :=
  builders.distinct_toList.imp fun hne heq => hne (by rw [heq]; exact Std.ReflCmp.compare_self)

/-- Those are asked about that the manifest does not tell of. -/
theorem mem_asked_iff {order : List Builder} :
    builder ∈ asked manifest order ↔ builder ∈ order ∧ ¬ manifest.TellsOf builder := by
  rw [asked, List.mem_filter, Option.isNone_iff_eq_none, Lookup.ofManifest?_eq_none_iff]

/-- The union of what lookups have found has the members of each. -/
theorem mem_foldl_union_iff {lookups : List (Builder × Lookup)} {mirrors : BuilderSet}
    {mirror : Builder} :
    mirror ∈ lookups.foldl (fun mirrors (_, lookup) => mirrors ∪ lookup.mirrors) mirrors ↔
      mirror ∈ mirrors ∨ ∃ looked ∈ lookups, mirror ∈ looked.2.mirrors := by
  induction lookups generalizing mirrors with
  | nil => simp
  | cons looked lookups ih =>
    rw [List.foldl_cons, ih, Std.ExtTreeSet.mem_union_iff, or_assoc]
    simp [or_and_right, exists_or]

variable {lookups : List (Builder × Lookup)}

/-- The names of the missing builders are those of the lookups that miss one. -/
theorem missingNames_perm (lookups : List (Builder × Lookup)) :
    (missingNames lookups).Perm ((lookups.filter (·.2.isMissing)).map (·.1.name)) :=
  List.mergeSort_perm _ _

/-- They are in the order of their bytes. -/
theorem pairwise_missingNames (lookups : List (Builder × Lookup)) :
    (missingNames lookups).Pairwise fun a b => Text.bytes a ≤ Text.bytes b := by
  have htrans (a b c : String) : decide (a ≤ b) → decide (b ≤ c) → decide (a ≤ c) := by
    simpa using fun hab hbc => String.le_trans hab hbc
  have htotal (a b : String) : decide (a ≤ b) || decide (b ≤ a) := by
    simpa using String.le_total a b
  exact (List.pairwise_mergeSort htrans htotal _).imp fun hle =>
    Text.le_iff_bytes_le.1 (of_decide_eq_true hle)

theorem missingNames_eq_nil_iff :
    missingNames lookups = [] ↔ ∀ looked ∈ lookups, ¬ looked.2.isMissing := by
  rw [← List.length_eq_zero_iff, (missingNames_perm lookups).length_eq, List.length_map,
    List.length_eq_zero_iff, List.filter_eq_nil_iff]

/-- If a builder is missing, all that are missing are reported. -/
theorem ofLookups_of_missing (h : ∃ looked ∈ lookups, looked.2.isMissing) :
    (ofLookups lookups : Except (MirrorsFault ε) BuilderSet) =
      .error (.missing (missingNames lookups)) := by
  have hne : missingNames lookups ≠ [] := by
    rw [Ne, missingNames_eq_nil_iff]
    push Not
    exact h
  unfold ofLookups
  split
  next hnil => exact absurd hnil hne
  next => rfl

/-- Otherwise the mirrors of all lookups are put together. -/
theorem ofLookups_of_found (h : ∀ looked ∈ lookups, ¬ looked.2.isMissing) :
    (ofLookups lookups : Except (MirrorsFault ε) BuilderSet) =
      .ok (lookups.foldl (fun mirrors (_, lookup) => mirrors ∪ lookup.mirrors) ∅) := by
  rw [ofLookups, missingNames_eq_nil_iff.2 h]

/-- What the lookups of some builders add up to, if each has come to its result. -/
theorem settled_ofLookups {asked : List Builder}
    (hlookups : (lookups.map Prod.fst).Perm builders.toList)
    (hfound : ∀ looked ∈ lookups, Lookup.result manifest answers looked.1 = .ok looked.2)
    (hasked : asked.Perm (TryBuilders.asked manifest builders.toList)) :
    Settled manifest answers builders (ofLookups lookups) asked := by
  have hmem {builder : Builder} : builder ∈ builders ↔ ∃ looked ∈ lookups, looked.1 = builder := by
    rw [← Std.ExtTreeSet.mem_toList, ← hlookups.mem_iff, List.mem_map]
  have hmissing {looked : Builder × Lookup} (hlooked : looked ∈ lookups) :
      looked.2.isMissing ↔ Lookup.IsAbsent manifest answers looked.1 :=
    Lookup.isMissing_iff (hfound looked hlooked)
  refine ⟨?_, ?_, ?_, ?_⟩
  · -- someone is missing, and everyone who is has his name reported
    rintro - ⟨builder, hbuilder, habsent⟩
    obtain ⟨looked, hlooked, rfl⟩ := hmem.1 hbuilder
    have hresult : (ofLookups lookups : Except (MirrorsFault ε) BuilderSet) =
        .error (.missing (missingNames lookups)) :=
      ofLookups_of_missing ⟨looked, hlooked, (hmissing hlooked).2 habsent⟩
    refine ⟨(lookups.filter (·.2.isMissing)).map Prod.fst, ?_, ?_, missingNames lookups, ?_,
      pairwise_missingNames lookups, hresult⟩
    · have hnodup := hlookups.nodup_iff.2 (nodup_toList builders)
      exact hnodup.sublist (List.filter_sublist.map Prod.fst)
    · intro other
      rw [hmem, List.mem_map]
      constructor
      · rintro ⟨looked, hlooked, rfl⟩
        obtain ⟨hlooked, hismissing⟩ := List.mem_filter.1 hlooked
        exact ⟨⟨looked, hlooked, rfl⟩, (hmissing hlooked).1 hismissing⟩
      · rintro ⟨⟨looked, hlooked, rfl⟩, hotherabsent⟩
        exact ⟨looked, List.mem_filter.2 ⟨hlooked, (hmissing hlooked).2 hotherabsent⟩, rfl⟩
    · rw [List.map_map]
      exact missingNames_perm lookups
  · -- nobody is missing, and the mirrors are those of all lookups together
    intro _ hnone
    refine ⟨_, ofLookups_of_found ?_, ?_⟩
    · intro looked hlooked hismissing
      exact hnone looked.1 (hmem.2 ⟨looked, hlooked, rfl⟩) ((hmissing hlooked).1 hismissing)
    · intro mirror
      rw [mem_foldl_union_iff, or_iff_right Std.ExtTreeSet.not_mem_empty]
      constructor
      · rintro ⟨looked, hlooked, hmirror⟩
        exact ⟨looked.1, hmem.2 ⟨looked, hlooked, rfl⟩,
          (Lookup.mem_mirrors_iff (hfound looked hlooked)).1 hmirror⟩
      · rintro ⟨builder, hbuilder, hmirror⟩
        obtain ⟨looked, hlooked, rfl⟩ := hmem.1 hbuilder
        exact ⟨looked, hlooked, (Lookup.mem_mirrors_iff (hfound looked hlooked)).2 hmirror⟩
  · intro _
    refine ⟨hasked.nodup_iff.2 ((nodup_toList builders).filter _), ?_⟩
    intro builder
    rw [hasked.mem_iff, mem_asked_iff, Std.ExtTreeSet.mem_toList]
  · -- no lookup has failed
    rintro ⟨builder, hbuilder, fault, hfails⟩
    obtain ⟨looked, hlooked, rfl⟩ := hmem.1 hbuilder
    have hresult := hfound looked hlooked
    rw [Lookup.result_eq_error_iff.2 hfails] at hresult
    cases hresult

end TryBuilders

/-- Lookups that have ended have led to what they must. -/
theorem Progress.Sound.settled {progress : Progress ε} {result : Except (MirrorsFault ε) BuilderSet}
    (h : progress.Sound manifest answers builders) (hends : progress.Ends result) :
    TryBuilders.Settled manifest answers builders result progress.asked := by
  obtain ⟨hunderWay, hresult⟩ := hends
  cases hfault : progress.fault? with
  | some fault =>
    obtain ⟨builder, hbuilder, hfails⟩ := h.fault_of fault hfault
    rw [hfault] at hresult
    -- what is said of builders none of which fails does not apply
    have hnot (hnone : ∀ builder ∈ builders, ∀ fault,
        ¬ Lookup.Fails manifest answers builder fault) : False :=
      hnone builder hbuilder fault hfails
    exact ⟨fun hnone _ => (hnot hnone).elim, fun hnone _ => (hnot hnone).elim,
      fun hnone => (hnot hnone).elim, fun _ hcalm =>
        ⟨builder, hbuilder, fault, hfails, hcalm builder hbuilder fault hfails, hresult⟩⟩
  | none =>
    rw [hfault] at hresult
    obtain ⟨hwaiting, lookups, hperm, rfl⟩ := hresult
    -- nobody waits any more, so that everyone has been looked up
    have hcomplete := h.complete hfault
    have hasked := h.asked_perm
    rw [hwaiting, hunderWay, List.map_nil, List.append_nil, List.append_nil] at hcomplete
    rw [hwaiting, TryBuilders.asked, List.filter_nil, List.append_nil] at hasked
    exact TryBuilders.settled_ofLookups ((hperm.map Prod.fst).trans hcomplete)
      (fun looked hlooked => h.found_eq looked (hperm.subset hlooked)) hasked

/-- Number of times that a lookup has yet to begin or to end. -/
def Progress.remaining (progress : Progress ε) : Nat :=
  2 * progress.waiting.length + progress.underWay.length

/-- While lookups have not ended, one more can begin or end. -/
theorem LookupStep.exists_next (progress : Progress ε) :
    (∃ next, LookupStep manifest answers progress next ∧ next.remaining < progress.remaining) ∨
      ∃ result, progress.Ends result := by
  cases hunderWay : progress.underWay with
  | cons looked rest =>
    refine .inl ⟨progress.settle ([] ++ rest) looked.1 looked.2, .settle hunderWay, ?_⟩
    rw [Progress.remaining, Progress.remaining, hunderWay]
    cases looked.2 with
    | ok lookup => simp [Progress.settle]
    | error fault => simp [Progress.settle]
  | nil =>
    cases hwaiting : progress.waiting with
    | cons builder waiting =>
      have hwaits : builder ∈ progress.waiting := by
        rw [hwaiting]
        exact List.mem_cons_self
      refine .inl ⟨progress.begin manifest answers builder, .begin hwaits, ?_⟩
      -- a lookup that begins is one less to wait for and one more that is to end
      rw [Progress.remaining, Progress.remaining, Progress.begin_eq, hunderWay, hwaiting]
      simp only [List.erase_cons_head, List.length_cons, List.length_nil]
      omega
    | nil =>
      right
      cases hfault : progress.fault? with
      | some fault => exact ⟨_, hunderWay, by rw [hfault]⟩
      | none => exact ⟨_, hunderWay, by rw [hfault]; exact ⟨hwaiting, _, .refl _, rfl⟩⟩

/-- Lookups that have begun somehow can be brought to their end. -/
theorem LookupStep.exists_ends (progress : Progress ε) :
    ∃ later result, Relation.ReflTransGen (LookupStep manifest answers) progress later ∧
      later.Ends result := by
  induction hsize : progress.remaining using Nat.strongRecOn generalizing progress with
  | _ size ih =>
    have hnext : (∃ next, LookupStep manifest answers progress next ∧
        next.remaining < progress.remaining) ∨ ∃ result, progress.Ends result :=
      exists_next progress
    rcases hnext with ⟨next, hstep, hless⟩ | ⟨result, hends⟩
    · obtain ⟨later, result, hsteps, hends⟩ := ih _ (hsize ▸ hless) next rfl
      exact ⟨later, result, .head hstep hsteps, hends⟩
    · exact ⟨progress, result, .refl, hends⟩

/-- The lookup of the next builder can begin and end before any other does. -/
theorem LookupStep.steps_of_waiting (manifest : Manifest) (answers : Answers ε)
    {progress : Progress ε} {order : List Builder} (hwaiting : progress.waiting = builder :: order)
    (hunderWay : progress.underWay = []) :
    Relation.ReflTransGen (LookupStep manifest answers) progress
      (Progress.settle
        { progress with
          waiting := order
          underWay := [(builder, Lookup.result manifest answers builder)]
          asked := progress.asked ++ TryBuilders.asked manifest [builder] }
        ([] ++ []) builder (Lookup.result manifest answers builder)) := by
  have hwaits : builder ∈ progress.waiting := by
    rw [hwaiting]
    exact List.mem_cons_self
  have hbegin : LookupStep manifest answers progress _ := .begin hwaits
  rw [Progress.begin_eq, hwaiting, List.erase_cons_head, hunderWay] at hbegin
  exact .head hbegin (.single (.settle rfl))

/-! ## Looking up builders in turn -/

namespace TryBuilders

theorem run_lookUpAll_cons (builder : Builder) (order asked : List Builder) :
    (lookUpAll (Lookup.ofBuilder manifest answers.recorded) (builder :: order)).run asked =
      match Lookup.result manifest answers builder with
      | .error fault => (.error fault, asked ++ TryBuilders.asked manifest [builder])
      | .ok lookup =>
        match (lookUpAll (Lookup.ofBuilder manifest answers.recorded) order).run
          (asked ++ TryBuilders.asked manifest [builder]) with
        | (.error fault, asked) => (.error fault, asked)
        | (.ok lookups, asked) => (.ok ((builder, lookup) :: lookups), asked) := by
  rw [lookUpAll, StateT.run_bind, Lookup.run_ofBuilder]
  cases Lookup.result manifest answers builder with
  | error fault => rfl
  | ok lookup =>
    -- the state of the first lookup is handed on to the others
    show StateT.run (lookUpAll (Lookup.ofBuilder manifest answers.recorded) order >>= _)
      (asked ++ TryBuilders.asked manifest [builder]) = _
    rw [StateT.run_bind]
    dsimp only
    rcases StateT.run (lookUpAll (Lookup.ofBuilder manifest answers.recorded) order)
      (asked ++ TryBuilders.asked manifest [builder]) with ⟨fault | lookups, asked⟩
    · rfl
    · rfl

/-- Looking up builders in turn is a schedule of their lookups. -/
theorem exists_steps_of_lookUpAll (manifest : Manifest) (answers : Answers ε)
    (order : List Builder) (progress : Progress ε) (hwaiting : progress.waiting = order)
    (hunderWay : progress.underWay = []) (hfault : progress.fault? = none) :
    ∃ later, Relation.ReflTransGen (LookupStep manifest answers) progress later ∧
      later.underWay = [] ∧
      match (lookUpAll (Lookup.ofBuilder manifest answers.recorded) order).run progress.asked with
      | (.error fault, asked) => later.asked = asked ∧ later.fault? = some fault
      | (.ok lookups, asked) =>
        later.asked = asked ∧ later.fault? = none ∧ later.waiting = [] ∧
          (lookups ++ progress.found).Perm later.found := by
  induction order generalizing progress with
  | nil => exact ⟨progress, .refl, hunderWay, rfl, hfault, hwaiting, .refl _⟩
  | cons builder order ih =>
    have hsteps := LookupStep.steps_of_waiting manifest answers hwaiting hunderWay
    rw [run_lookUpAll_cons]
    cases hresult : Lookup.result manifest answers builder with
    | error fault =>
      rw [hresult] at hsteps
      exact ⟨_, hsteps, rfl, rfl, by simp [Progress.settle, hfault]⟩
    | ok lookup =>
      rw [hresult] at hsteps
      -- the others are looked up from there on
      obtain ⟨later, hlater, hended, hrest⟩ := ih
        { progress with
          waiting := order
          underWay := []
          found := (builder, lookup) :: progress.found
          asked := progress.asked ++ TryBuilders.asked manifest [builder] } rfl rfl hfault
      refine ⟨later, hsteps.trans hlater, hended, ?_⟩
      dsimp only at hrest ⊢
      split at hrest
      · exact hrest
      · obtain ⟨hasked, hnone, hdone, hperm⟩ := hrest
        exact ⟨hasked, hnone, hdone, List.perm_middle.symm.trans hperm⟩

/-- Looking up builders in turn ends like a schedule of their lookups. -/
theorem exists_steps_of_ofBuilders (manifest : Manifest) (answers : Answers ε)
    (order : List Builder) :
    ∃ later, Relation.ReflTransGen (LookupStep manifest answers) { waiting := order } later ∧
      later.Ends
        ((ofBuilders (Lookup.ofBuilder manifest answers.recorded) order).run []).1 ∧
      later.asked = ((ofBuilders (Lookup.ofBuilder manifest answers.recorded) order).run []).2 := by
  obtain ⟨later, hsteps, hended, hlater⟩ :=
    exists_steps_of_lookUpAll manifest answers order { waiting := order } rfl rfl rfl
  refine ⟨later, hsteps, ?_⟩
  -- a run ends with the first failure, or puts all of its lookups together
  have hrun : (ofBuilders (Lookup.ofBuilder manifest answers.recorded) order).run [] =
      match (lookUpAll (Lookup.ofBuilder manifest answers.recorded) order).run [] with
      | (.error fault, asked) => (.error (.lookup fault), asked)
      | (.ok lookups, asked) => (ofLookups lookups, asked) := by
    rw [ofBuilders, StateT.run_bind]
    rcases (lookUpAll (Lookup.ofBuilder manifest answers.recorded) order).run [] with
      ⟨fault | lookups, asked⟩
    · rfl
    · rfl
  rw [hrun]
  dsimp only at hlater
  split at hlater
  · obtain ⟨hasked, hfault⟩ := hlater
    exact ⟨⟨hended, by rw [hfault]⟩, hasked⟩
  · obtain ⟨hasked, hnone, hdone, hperm⟩ := hlater
    rw [List.append_nil] at hperm
    exact ⟨⟨hended, by rw [hnone]; exact ⟨hdone, _, hperm, rfl⟩⟩, hasked⟩

/-- In whatever order the lookups of some builders begin and end, in turn as the program performs
them or several at a time, they come to an end, and to what they must. -/
theorem settled_any_order (manifest : Manifest) (answers : Answers ε) (builders : BuilderSet)
    (order : List Builder) (horder : order.Perm builders.toList) :
    let inTurn := (ofBuilders (Lookup.ofBuilder manifest answers.recorded) order).run []
    Settled manifest answers builders inTurn.1 inTurn.2 ∧
      ∀ progress,
        Relation.ReflTransGen (LookupStep manifest answers) { waiting := order } progress →
        (∀ result, progress.Ends result →
          Settled manifest answers builders result progress.asked) ∧
        ∃ later result, Relation.ReflTransGen (LookupStep manifest answers) progress later ∧
          later.Ends result := by
  -- whatever the order of the steps is, they are sound, and so is what they end with
  have hsettled {progress : Progress ε} {result : Except (MirrorsFault ε) BuilderSet}
      (hsteps : Relation.ReflTransGen (LookupStep manifest answers) { waiting := order } progress)
      (hends : progress.Ends result) :
      Settled manifest answers builders result progress.asked :=
    (LookupStep.sound_of_steps hsteps (Progress.sound_start manifest answers horder)).settled hends
  refine ⟨?_, ?_⟩
  · -- looking up one builder after the other is one order of the steps
    obtain ⟨later, hsteps, hends, hasked⟩ := exists_steps_of_ofBuilders manifest answers order
    rw [← hasked]
    exact hsettled hsteps hends
  · intro progress hsteps
    exact ⟨fun result hends => hsettled hsteps hends, LookupStep.exists_ends progress⟩

/-- A builder of another project has no mirrors although it is listed as fake, and nobody is asked
for it. Two builders of one name have no output. -/
theorem settled_any_order_of_twins :
    let foreign : Builder := ⟨"Foreign", .ci, false⟩
    let twin : Builder := ⟨"Twin", .ci, false⟩
    let manifest : Manifest :=
      { fakes := (∅ : Std.ExtTreeMap Builder BuilderSet).insert foreign {⟨"try", .tryJob, false⟩}
        nonChromium := {foreign} }
    let answers : Answers QueryFault := fun _ => .ok none
    let builders : BuilderSet := {foreign, twin, { twin with isInternal := true }}
    let inTurn := (ofBuilders (Lookup.ofBuilder manifest answers.recorded)
      builders.toList.reverse).run []
    builders.toList.reverse.Perm builders.toList ∧
      Settled manifest answers builders inTurn.1 inTurn.2 ∧
      (∃ names, inTurn.1 = .error (.missing names)) ∧
      inTurn.2 = [{ twin with isInternal := true }, twin] := by
  intro foreign twin manifest answers builders inTurn
  have horder : builders.toList.reverse.Perm builders.toList := List.reverse_perm _
  have hsettled := (settled_any_order manifest answers builders _ horder).1
  refine ⟨horder, hsettled, ?_, by decide +kernel⟩
  have hanswered : ∀ builder ∈ builders, ∀ fault,
      ¬ Lookup.Fails manifest answers builder fault := by
    rintro builder - fault (⟨-, answer⟩ | ⟨-, answer, -⟩)
    · cases answer
    · cases answer
  -- no build of a twin is known, and the manifest does not tell of it
  have habsent : Lookup.IsAbsent manifest answers twin :=
    ⟨Lookup.ofManifest?_eq_none_iff.1 (by decide +kernel), rfl⟩
  obtain ⟨-, -, -, names, -, -, hresult⟩ :=
    hsettled.missing hanswered ⟨twin, by decide +kernel, habsent⟩
  exact ⟨names, hresult⟩

end TryBuilders

end BuildScope

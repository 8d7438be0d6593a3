import Codemem.Foundation.LocaleCompare
import Codemem.Foundation.StableSort
import Codemem.Recipients.PolicyTables
import Codemem.Store.Duplicates

/-!
# Acceptance of a share operation

The inviter reviews a list of projects, which is stored with the operation.  The recipient accepts a
list, and the two are compared as texts after both were sorted: the stored one by the binary collation
of the database, the accepted one by `localeCompare`.
-/

namespace Codemem

/-! ### Project identities -/

def normalizeSlash (value : String) : String :=
  let slashes := (trim value).toList.map fun c => if c = '\\' then '/' else c
  let normalized := slashes.rdropWhile fun c => c == '/'
  if normalized.isEmpty then trim value else String.ofList normalized

/-- `canonicalWorkspaceIdentity({ gitRemote }).value`; `none` stands for an unmapped identity. -/
def canonicalGitRemote (gitRemote : String) : Option String :=
  (cleanProjectIdentity (some gitRemote)).map normalizeSlash

/-! ### Reviewed and accepted projects -/

structure ShareProjectIntent where
  canonicalIdentity : String
  displayName : String
  identitySource : String
  existingMemoryCount : ℤ
  deriving DecidableEq

structure AcceptedProjectIntent where
  canonicalIdentity : String
  displayName : String
  existingMemoryCount : ℤ
  deriving DecidableEq

def normalizeIdentityDisplayName (value field : String) : Except String String :=
  let normalized := trim (String.ofList (collapseSpaces false value.toList))
  if value.toList.any isControlOrFormatChar then .error (field ++ "_invalid")
  else if normalized.toList.isEmpty then .error (field ++ "_required")
  else if 120 < normalized.toList.length then .error (field ++ "_too_long")
  else .ok normalized

/-- The checks of `parseAcceptedProjectIntent` on one record. -/
def isAcceptableProject (record : AcceptedProjectIntent) : Bool :=
  let canonicalIdentity := trim record.canonicalIdentity
  decide (normalizeIdentityDisplayName record.displayName "project_name" =
      .ok record.displayName) &&
    !canonicalIdentity.toList.isEmpty && canonicalIdentity == record.canonicalIdentity &&
    decide ((utf16 canonicalIdentity).length ≤ 2048) && !hasPrefix "unmapped:" canonicalIdentity &&
    canonicalGitRemote canonicalIdentity == some canonicalIdentity &&
    isSafeNatural record.existingMemoryCount &&
    !canonicalIdentity.toList.any isControlOrFormatChar

/-- `parseAcceptedProjectIntent` of a list of records. -/
def parseAcceptedProjectIntent (compare : String → String → ℤ)
    (value : List AcceptedProjectIntent) : Except String (List AcceptedProjectIntent) :=
  if value.length = 0 ∨ 100 < value.length then .error "operation_intent_invalid"
  else if ¬value.all isAcceptableProject then .error "operation_intent_invalid"
  else if ¬(value.map AcceptedProjectIntent.canonicalIdentity).Nodup then
    .error "operation_intent_invalid"
  else .ok (value.insertionSort fun left right =>
    compare left.canonicalIdentity right.canonicalIdentity ≤ 0)

/-- The project part of `planShareOperation`. -/
def planProjects (compare : String → String → ℤ) (input : List ShareProjectIntent) :
    Except String (List ShareProjectIntent) :=
  if input.length = 0 then .error "project_selection_empty"
  else
    let projects := (input.map fun project =>
      { project with
        canonicalIdentity := trim project.canonicalIdentity
        displayName := trim project.displayName
        identitySource := trim project.identitySource }).insertionSort fun left right =>
          compare left.canonicalIdentity right.canonicalIdentity ≤ 0
    if projects.any fun project =>
        project.canonicalIdentity.toList.isEmpty || project.displayName.toList.isEmpty ||
          project.identitySource.toList.isEmpty || !isSafeNatural project.existingMemoryCount then
      .error "project_selection_invalid"
    else if ¬(projects.map ShareProjectIntent.canonicalIdentity).Nodup then
      .error "project_selection_duplicate"
    else .ok projects

/-- A row of `share_operation_projects`, as the comparison reads it. -/
def ShareProjectIntent.record (project : ShareProjectIntent) : AcceptedProjectIntent :=
  ⟨project.canonicalIdentity, project.displayName, project.existingMemoryCount⟩

/-- The project comparison of `reconcileShareOperationAcceptance`. -/
def reconcileProjects (compare : String → String → ℤ) (stored : List ShareProjectIntent)
    (accepted : List AcceptedProjectIntent) : Except String Unit := do
  let acceptedProjects ← parseAcceptedProjectIntent compare accepted
  let localProjects :=
    sortByPos AcceptedProjectIntent.canonicalIdentity (stored.map ShareProjectIntent.record)
  if localProjects ≠ acceptedProjects then .error "operation_intent_mismatch"
  return ()

/-! ### When the comparison is right -/

/-- The comparison succeeds for the permutations of the reviewed list and reports a mismatch for all
other lists. -/
def MatchesReviewed (compare : String → String → ℤ) (stored : List ShareProjectIntent)
    (accepted : List AcceptedProjectIntent) : Prop :=
  (accepted.Perm (stored.map ShareProjectIntent.record) →
    reconcileProjects compare stored accepted = .ok ()) ∧
  (¬accepted.Perm (stored.map ShareProjectIntent.record) →
    reconcileProjects compare stored accepted = .error "operation_intent_mismatch")

/-- The records are accepted by the parser. -/
structure IsAcceptable (accepted : List AcceptedProjectIntent) : Prop where
  pos : 0 < accepted.length
  le : accepted.length ≤ 100
  valid : ∀ record ∈ accepted, isAcceptableProject record = true
  nodup : (accepted.map AcceptedProjectIntent.canonicalIdentity).Nodup

/-- Of two identities the one that comes first by code points comes first by `localeCompare`, or
compares equal and was sent first. -/
def OrdersAgree (compare : String → String → ℤ) (accepted : List AcceptedProjectIntent) : Prop :=
  ∀ a ∈ accepted, ∀ b ∈ accepted, a.canonicalIdentity < b.canonicalIdentity →
    compare a.canonicalIdentity b.canonicalIdentity < 0 ∨
      compare a.canonicalIdentity b.canonicalIdentity = 0 ∧ [a, b].Sublist accepted

lemma parseAcceptedProjectIntent_of_isAcceptable {compare : String → String → ℤ}
    {accepted : List AcceptedProjectIntent} (h : IsAcceptable accepted) :
    parseAcceptedProjectIntent compare accepted = .ok (accepted.insertionSort fun left right =>
      compare left.canonicalIdentity right.canonicalIdentity ≤ 0) := by
  have hlength : ¬(accepted.length = 0 ∨ 100 < accepted.length) := by
    have hpos := h.pos
    have hle := h.le
    omega
  unfold parseAcceptedProjectIntent
  rw [if_neg hlength, if_neg (not_not.mpr (List.all_eq_true.mpr h.valid)),
    if_neg (not_not.mpr h.nodup)]

lemma parseAcceptedProjectIntent_of_not_isAcceptable {compare : String → String → ℤ}
    {accepted : List AcceptedProjectIntent} (h : ¬IsAcceptable accepted) :
    parseAcceptedProjectIntent compare accepted = .error "operation_intent_invalid" := by
  unfold parseAcceptedProjectIntent
  split_ifs with hlength hvalid hnodup
  · rfl
  · refine absurd ⟨?_, ?_, List.all_eq_true.mp hvalid, hnodup⟩ h
    · omega
    · omega
  · rfl
  · rfl

lemma reconcileProjects_eq_ok_iff {compare : String → String → ℤ}
    {stored : List ShareProjectIntent} {accepted : List AcceptedProjectIntent}
    (h : IsAcceptable accepted) :
    reconcileProjects compare stored accepted = .ok () ↔
      sortByPos AcceptedProjectIntent.canonicalIdentity (stored.map ShareProjectIntent.record) =
        accepted.insertionSort fun left right =>
          compare left.canonicalIdentity right.canonicalIdentity ≤ 0 := by
  unfold reconcileProjects
  rw [parseAcceptedProjectIntent_of_isAcceptable h]
  simp only [bind, Except.bind, pure, Except.pure]
  split_ifs with hne
  · simpa using hne
  · simpa using hne

lemma reconcileProjects_of_ne {compare : String → String → ℤ} {stored : List ShareProjectIntent}
    {accepted : List AcceptedProjectIntent} (h : IsAcceptable accepted)
    (hne : sortByPos AcceptedProjectIntent.canonicalIdentity (stored.map ShareProjectIntent.record) ≠
      accepted.insertionSort fun left right =>
        compare left.canonicalIdentity right.canonicalIdentity ≤ 0) :
    reconcileProjects compare stored accepted = .error "operation_intent_mismatch" := by
  unfold reconcileProjects
  rw [parseAcceptedProjectIntent_of_isAcceptable h]
  simp only [bind, Except.bind]
  rw [if_pos hne]

lemma pairwise_lt_insertionSort_iff {compare : String → String → ℤ}
    (hcompare : IsConsistentCompare compare) {accepted : List AcceptedProjectIntent}
    (hnodup : (accepted.map AcceptedProjectIntent.canonicalIdentity).Nodup) :
    ((accepted.insertionSort fun left right =>
        compare left.canonicalIdentity right.canonicalIdentity ≤ 0).Pairwise fun a b =>
          a.canonicalIdentity < b.canonicalIdentity) ↔ OrdersAgree compare accepted := by
  have htotal : Std.Total fun left right : AcceptedProjectIntent =>
      compare left.canonicalIdentity right.canonicalIdentity ≤ 0 := ⟨fun a b => by
    have hswap := hcompare.swap a.canonicalIdentity b.canonicalIdentity
    omega⟩
  have htrans : IsTrans AcceptedProjectIntent fun left right =>
      compare left.canonicalIdentity right.canonicalIdentity ≤ 0 :=
    ⟨fun a b c => hcompare.trans _ _ _⟩
  have hconnected : ∀ a ∈ accepted, ∀ b ∈ accepted, a ≠ b →
      a.canonicalIdentity < b.canonicalIdentity ∨ b.canonicalIdentity < a.canonicalIdentity :=
    fun a ha b hb hne => lt_or_gt_of_ne fun heq => hne (List.inj_on_of_nodup_map hnodup ha hb heq)
  rw [pairwise_insertionSort_iff (List.Nodup.of_map _ hnodup) (fun _ _ => lt_asymm) hconnected]
  unfold OrdersAgree
  refine forall₅_congr fun a ha b hb hlt => ?_
  have hswap := hcompare.swap a.canonicalIdentity b.canonicalIdentity
  have hzero := @IsConsistentCompare.eq_zero_comm compare hcompare a.canonicalIdentity
    b.canonicalIdentity
  constructor
  · rintro ⟨hle, hplace⟩
    rcases hle.lt_or_eq with hneg | heq
    · exact .inl hneg
    · exact .inr ⟨heq, hplace (hzero.mp heq).le⟩
  · rintro (hneg | ⟨heq, hplace⟩)
    · exact ⟨hneg.le, fun hle => by omega⟩
    · exact ⟨heq.le, fun _ => hplace⟩

lemma sortByPos_eq_insertionSort_iff {compare : String → String → ℤ}
    (hcompare : IsConsistentCompare compare) {reviewed accepted : List AcceptedProjectIntent}
    (hnodup : (accepted.map AcceptedProjectIntent.canonicalIdentity).Nodup)
    (hperm : accepted.Perm reviewed) :
    (sortByPos AcceptedProjectIntent.canonicalIdentity reviewed = accepted.insertionSort
      fun left right => compare left.canonicalIdentity right.canonicalIdentity ≤ 0) ↔
        OrdersAgree compare accepted := by
  rw [← pairwise_lt_insertionSort_iff hcompare hnodup]
  have hsorted := pairwise_lt_sortByPos ((hperm.map _).nodup_iff.mp hnodup)
  constructor
  · intro heq
    rw [← heq]
    exact hsorted
  · intro hpairwise
    have hboth := (perm_sortByPos AcceptedProjectIntent.canonicalIdentity reviewed).trans
      (hperm.symm.trans (List.perm_insertionSort (fun left right : AcceptedProjectIntent =>
        compare left.canonicalIdentity right.canonicalIdentity ≤ 0) accepted).symm)
    exact hboth.eq_of_pairwise (fun a b _ _ hab hba => absurd hab (lt_asymm hba)) hsorted hpairwise

lemma of_planProjects {compare : String → String → ℤ} {input stored : List ShareProjectIntent}
    (h : planProjects compare input = .ok stored) :
    0 < stored.length ∧ (stored.map ShareProjectIntent.canonicalIdentity).Nodup := by
  unfold planProjects at h
  simp only at h
  split_ifs at h with hempty hinvalid hdup
  obtain rfl := Except.ok.inj h
  refine ⟨?_, hdup⟩
  rw [List.length_insertionSort, List.length_map]
  omega

lemma isAcceptable_of_perm {compare : String → String → ℤ} {input stored : List ShareProjectIntent}
    {accepted : List AcceptedProjectIntent} (hplan : planProjects compare input = .ok stored)
    (hvalid : ∀ project ∈ stored, isAcceptableProject project.record = true)
    (hperm : accepted.Perm (stored.map ShareProjectIntent.record)) (hle : accepted.length ≤ 100) :
    IsAcceptable accepted := by
  obtain ⟨hpos, hnodup⟩ := of_planProjects hplan
  refine ⟨?_, hle, fun record hrecord => ?_, ?_⟩
  · rw [hperm.length_eq, List.length_map]
    exact hpos
  · obtain ⟨project, hproject, rfl⟩ := List.mem_map.mp (hperm.mem_iff.mp hrecord)
    exact hvalid project hproject
  · rw [(hperm.map _).nodup_iff, List.map_map]
    exact hnodup

/-- Two projects that a comparison without regard to case orders the other way. -/
def mixedCaseProjects : List ShareProjectIntent :=
  [⟨"github.com/a/a", "a", "git_remote", 1⟩, ⟨"github.com/a/B", "B", "git_remote", 2⟩]

/-- A comparison that looks at the letters first and at their case last. -/
def compareFolded : String → String → ℤ :=
  compareByKey fun text => text.toList.map (fun c => c.toLower.toNat) ++
    0 :: text.toList.map fun c => if c.isUpper then 1 else 0

end Codemem

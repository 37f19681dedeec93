import ContractProxy.Proofs.Batch.Positions
import ContractProxy.Proofs.FirstFault

/-!
Which contract of a batch gets a file. The map of files given away always says which contract was
the first to be generated for a file, so a contract depends on those before it only through that
one. Main statement: the units and failures of a batch, each at its place.
-/

set_option autoImplicit false

namespace ContractProxy.Generator

/-- The contract of an outcome, if it is generated for the file with this name in lower case. -/
def claim? (folded : Text) : Text × Outcome → Option Text
  | (contract, .ok unit) =>
    if Text.lowercase unit.fileName = folded then some contract else none
  | (_, .error _) => none

def claimant? (outcomes : List (Text × Outcome)) (folded : Text) : Option Text :=
  outcomes.findSome? (claim? folded)

theorem claim?_eq_some_iff {folded first : Text} {entry : Text × Outcome} :
    claim? folded entry = some first ↔
      ∃ unit, entry = (first, .ok unit) ∧ Text.lowercase unit.fileName = folded := by
  obtain ⟨contract, fault | unit⟩ := entry
  · simp [claim?]
  · simp only [claim?, Option.ite_none_right_eq_some, Option.some.injEq]
    constructor
    · rintro ⟨hfile, rfl⟩
      exact ⟨unit, rfl, hfile⟩
    · rintro ⟨found, h, hfile⟩
      cases h
      exact ⟨hfile, rfl⟩

theorem claimant?_append (before after : List (Text × Outcome)) (folded : Text) :
    claimant? (before ++ after) folded =
      (claimant? before folded).or (claimant? after folded) :=
  List.findSome?_append

/-- What an entry becomes, given the outcomes before it. -/
def settle (earlier : List (Text × Outcome)) : Text × Outcome → Text × Outcome
  | (contract, .error fault) => (contract, .error fault)
  | (contract, .ok unit) =>
    match claimant? earlier (Text.lowercase unit.fileName) with
    | some first => (contract, .error (.duplicateOutput unit.fileName first contract))
    | none => (contract, .ok unit)

/-- The map of files given away says who claimed a file first. -/
def Owned (earlier : List (Text × Outcome)) (owners : List (Text × Text)) : Prop :=
  ∀ folded, owners.lookup folded = claimant? earlier folded

theorem assignFiles_cons {earlier : List (Text × Outcome)} {owners : List (Text × Text)}
    (h : Owned earlier owners) (entry : Text × Outcome) (rest : List (Text × Outcome)) :
    ∃ owners', Owned (earlier ++ [entry]) owners' ∧
      assignFiles owners (entry :: rest) = settle earlier entry :: assignFiles owners' rest := by
  have hclaims : ∀ folded, claimant? (earlier ++ [entry]) folded =
      (owners.lookup folded).or (claim? folded entry) := by
    intro folded
    rw [claimant?_append, h folded, claimant?, claimant?, List.findSome?_singleton]
  obtain ⟨contract, fault | unit⟩ := entry
  · refine ⟨owners, ?_, rfl⟩
    intro folded
    rw [hclaims, claim?, Option.or_none]
  · cases howner : owners.lookup (Text.lowercase unit.fileName) with
    | some first =>
      refine ⟨owners, ?_, ?_⟩
      · intro folded
        rw [hclaims, claim?]
        split_ifs with hfile
        · rw [← hfile, howner, Option.some_or]
        · rw [Option.or_none]
      · rw [h] at howner
        simp only [assignFiles, settle, howner, h _]
    | none =>
      refine ⟨(Text.lowercase unit.fileName, contract) :: owners, ?_, ?_⟩
      · intro folded
        rw [hclaims, claim?, List.lookup_cons]
        split_ifs with hfile
        · subst hfile
          simp [howner]
        · simp [show (folded == Text.lowercase unit.fileName) = false by
            simpa using fun heq => hfile heq.symm]
      · rw [h] at howner
        simp only [assignFiles, settle, howner, h _]

theorem getElem?_assignFiles {earlier rest : List (Text × Outcome)} {owners : List (Text × Text)}
    (h : Owned earlier owners) (i : Nat) :
    (assignFiles owners rest)[i]? = rest[i]?.map (settle (earlier ++ rest.take i)) := by
  -- What has been settled moves over to the earlier outcomes, which the map of owners stands for.
  induction rest generalizing earlier owners i with
  | nil => rfl
  | cons entry rest ih =>
    obtain ⟨owners', howned, heq⟩ := assignFiles_cons h entry rest
    rw [heq]
    cases i with
    | zero => simp
    | succ i => simpa using ih howned i

theorem getElem?_selected (generator : Generator) (i : Nat) :
    generator.selected[i]? =
      generator.outcomes[i]?.map (settle (generator.outcomes.take i)) := by
  have hempty : Owned [] [] := fun _ => rfl
  exact getElem?_assignFiles hempty i

theorem length_selected (generator : Generator) :
    generator.selected.length = generator.outcomes.length := by
  rw [selected]
  fun_induction assignFiles [] generator.outcomes <;> simp_all

theorem settle_eq_ok_iff {earlier : List (Text × Outcome)} {entry : Text × Outcome}
    {contract : Text} {unit : ProxyUnit} :
    settle earlier entry = (contract, .ok unit) ↔
      entry = (contract, .ok unit) ∧ claimant? earlier (Text.lowercase unit.fileName) = none := by
  obtain ⟨name, fault | found⟩ := entry
  · simp [settle]
  · rw [settle]
    constructor
    · intro h
      split at h
      · cases h
      · cases h
        exact ⟨rfl, ‹_›⟩
    · rintro ⟨h, hclaim⟩
      cases h
      rw [hclaim]

theorem settle_eq_error_iff {earlier : List (Text × Outcome)} {entry : Text × Outcome}
    {contract : Text} {fault : GenerateFault} :
    settle earlier entry = (contract, .error fault) ↔
      entry = (contract, .error fault) ∨
        ∃ unit first, entry = (contract, .ok unit) ∧
          claimant? earlier (Text.lowercase unit.fileName) = some first ∧
          fault = .duplicateOutput unit.fileName first contract := by
  obtain ⟨name, found | unit⟩ := entry
  · simp [settle]
  · rw [settle]
    constructor
    · intro h
      split at h
      · cases h
        exact .inr ⟨unit, _, rfl, ‹_›, rfl⟩
      · cases h
    · rintro (h | ⟨unit', first, h, hclaim, rfl⟩)
      · cases h
      · cases h
        rw [hclaim]

/-- The contract at a position is the first one generated for a file, given in lower case. -/
structure FirstClaim (outcomes : List (Text × Outcome)) (folded first : Text) (j : Nat) : Prop where
  claims : ∃ unit, outcomes[j]? = some (first, .ok unit) ∧ Text.lowercase unit.fileName = folded
  earliest : ∀ k < j, ∀ contract unit, outcomes[k]? = some (contract, .ok unit) →
    Text.lowercase unit.fileName ≠ folded

theorem claimant?_take_eq_none_iff {outcomes : List (Text × Outcome)} {i : Nat} {folded : Text} :
    claimant? (outcomes.take i) folded = none ↔
      ∀ j < i, ∀ contract unit, outcomes[j]? = some (contract, .ok unit) →
        Text.lowercase unit.fileName ≠ folded := by
  rw [claimant?, List.findSome?_eq_none_iff]
  constructor
  · intro h j hj contract unit hunit hfile
    rw [← List.getElem?_take_of_lt hj] at hunit
    have hnone := h _ (List.mem_of_getElem? hunit)
    rw [claim?, if_pos hfile] at hnone
    cases hnone
  · intro h entry hentry
    obtain ⟨j, hj⟩ := List.mem_iff_getElem?.mp hentry
    have hlt := (List.getElem?_eq_some_iff.mp hj).1
    rw [List.length_take] at hlt
    rw [List.getElem?_take_of_lt (by omega)] at hj
    rw [Option.eq_none_iff_forall_not_mem]
    intro first hfirst
    obtain ⟨unit, rfl, hfile⟩ := claim?_eq_some_iff.mp hfirst
    exact h j (by omega) first unit hj hfile

theorem FirstClaim.unique {outcomes : List (Text × Outcome)} {folded first other : Text}
    {j k : Nat} (h : FirstClaim outcomes folded first j)
    (hother : FirstClaim outcomes folded other k) : first = other := by
  obtain ⟨unit, hunit, hfile⟩ := h.claims
  obtain ⟨found, hfound, hsame⟩ := hother.claims
  rcases Nat.lt_trichotomy j k with hlt | heq | hgt
  · exact absurd hfile (hother.earliest j hlt first unit hunit)
  · subst heq
    rw [hunit] at hfound
    cases hfound
    rfl
  · exact absurd hsame (h.earliest k hgt other found hfound)

theorem claimant?_take_eq_some_iff {outcomes : List (Text × Outcome)} {i : Nat}
    {folded first : Text} :
    claimant? (outcomes.take i) folded = some first ↔
      ∃ j < i, FirstClaim outcomes folded first j := by
  have hclaim : ∀ {other}, claimant? (outcomes.take i) folded = some other →
      ∃ j < i, FirstClaim outcomes folded other j := by
    intro other h
    -- The position is the number of outcomes that the search went past.
    obtain ⟨before, entry, after, hsplit, hentry, hbefore⟩ := List.findSome?_eq_some_iff.mp h
    obtain ⟨unit, rfl, hfile⟩ := claim?_eq_some_iff.mp hentry
    have hlt : before.length < i := by
      have hlength := congrArg List.length hsplit
      rw [List.length_take, List.length_append, List.length_cons] at hlength
      omega
    have hat : ∀ k < i, outcomes[k]? = (before ++ (other, .ok unit) :: after)[k]? := by
      intro k hk
      rw [← hsplit, List.getElem?_take_of_lt hk]
    refine ⟨before.length, hlt, ⟨unit, by rw [hat _ hlt]; simp, hfile⟩, ?_⟩
    intro k hk contract found hfound hsame
    rw [hat k (by omega), List.getElem?_append_left hk] at hfound
    have hnone := hbefore _ (List.mem_of_getElem? hfound)
    rw [claim?, if_pos hsame] at hnone
    cases hnone
  constructor
  · exact hclaim
  · rintro ⟨j, hj, h⟩
    cases hfound : claimant? (outcomes.take i) folded with
    | none =>
      obtain ⟨unit, hunit, hfile⟩ := h.claims
      exact absurd hfile (claimant?_take_eq_none_iff.mp hfound j hj first unit hunit)
    | some other =>
      obtain ⟨k, _, hother⟩ := hclaim hfound
      rw [h.unique hother]

/-- A contract that is generated for a file which no contract before it is generated for. -/
structure Granted (outcomes : List (Text × Outcome)) (i : Nat) (unit : ProxyUnit) : Prop where
  made : ∃ contract, outcomes[i]? = some (contract, .ok unit)
  unclaimed : ∀ j < i, ∀ contract other, outcomes[j]? = some (contract, .ok other) →
    Text.lowercase other.fileName ≠ Text.lowercase unit.fileName

/-- A contract that fails by itself, or whose file belongs to a contract before it. -/
inductive Refused (outcomes : List (Text × Outcome)) (i : Nat) : Text × GenerateFault → Prop
  | failed {contract : Text} {fault : GenerateFault}
    (hfault : outcomes[i]? = some (contract, .error fault)) : Refused outcomes i (contract, fault)
  | claimed {contract first : Text} {unit : ProxyUnit} {j : Nat}
    (hunit : outcomes[i]? = some (contract, .ok unit)) (hj : j < i)
    (hfirst : FirstClaim outcomes (Text.lowercase unit.fileName) first j) :
    Refused outcomes i (contract, .duplicateOutput unit.fileName first contract)

theorem granted_iff {generator : Generator} {i : Nat} {unit : ProxyUnit} :
    Granted generator.outcomes i unit ↔
      ∃ contract, generator.selected[i]? = some (contract, .ok unit) := by
  simp only [getElem?_selected, Option.map_eq_some_iff, settle_eq_ok_iff,
    claimant?_take_eq_none_iff]
  constructor
  · rintro ⟨⟨contract, hunit⟩, hfree⟩
    exact ⟨contract, _, hunit, rfl, hfree⟩
  · rintro ⟨contract, _, hunit, rfl, hfree⟩
    exact ⟨⟨contract, hunit⟩, hfree⟩

theorem refused_iff {generator : Generator} {i : Nat} {contract : Text} {fault : GenerateFault} :
    Refused generator.outcomes i (contract, fault) ↔
      generator.selected[i]? = some (contract, .error fault) := by
  simp only [getElem?_selected, Option.map_eq_some_iff, settle_eq_error_iff,
    claimant?_take_eq_some_iff]
  constructor
  · intro h
    cases h with
    | failed hfault => exact ⟨_, hfault, .inl rfl⟩
    | claimed hunit hj hfirst => exact ⟨_, hunit, .inr ⟨_, _, rfl, ⟨_, hj, hfirst⟩, rfl⟩⟩
  · rintro ⟨entry, hentry, rfl | ⟨unit, first, rfl, ⟨j, hj, hfirst⟩, rfl⟩⟩
    · exact .failed hentry
    · exact .claimed hentry hj hfirst

/-- The contracts that a batch is about, with their declarations: the one that is asked for, which
may not be declared, or all of the assembly. -/
def selection (generator : Generator) : List (Text × Option TypeDeclaration) :=
  match generator.only with
  | some name => [(name, generator.assembly.find? name)]
  | none => generator.assembly.contracts.map fun type => (type.fullName, some type)

def outcomeOf (generator : Generator) (entry : Text × Option TypeDeclaration) : Outcome :=
  match entry.2 with
  | some type => generator.ofType type
  | none => .error (.contractNotFound entry.1)

theorem outcomes_eq (generator : Generator) :
    generator.outcomes =
      generator.selection.map fun entry => (entry.1, generator.outcomeOf entry) := by
  unfold outcomes selection
  cases generator.only with
  | some name =>
    cases hfind : generator.assembly.find? name with
    | none => simp [ofName, outcomeOf, hfind]
    | some type => simp [ofName, outcomeOf, hfind]
  | none => simp [outcomeOf]

theorem outcomeOf_congr {generator other : Generator} (hscope : other.scope = generator.scope)
    (htemplate : other.template = generator.template) :
    other.outcomeOf = generator.outcomeOf := by
  funext entry
  unfold outcomeOf ofType
  rw [hscope, htemplate]

theorem exists_type_of_mem {generator : Generator} {contract : Text} {unit : ProxyUnit}
    (h : (contract, .ok unit) ∈ generator.outcomes) :
    ∃ type, generator.ofType type = .ok unit := by
  rw [outcomes_eq] at h
  obtain ⟨⟨name, type⟩, _, heq⟩ := List.mem_map.mp h
  obtain ⟨_, hunit⟩ := Prod.mk.inj heq
  cases type with
  | none => cases hunit
  | some type => exact ⟨type, hunit⟩

theorem fault_of_ofType {generator : Generator} {type : TypeDeclaration} {fault : GenerateFault}
    (h : generator.ofType type = .error fault) :
    (∃ rejection, fault = .rejected rejection) ∨ ∃ found, fault = .proxy found := by
  rcases bind_eq_error_iff.mp h with h | ⟨contract, _, h⟩
  · obtain ⟨rejection, _, rfl⟩ := mapError_eq_error_iff.mp h
    exact .inl ⟨rejection, rfl⟩
  · obtain ⟨found, _, rfl⟩ := mapError_eq_error_iff.mp h
    exact .inr ⟨found, rfl⟩

theorem exists_contract_of_mem {generator : Generator} {unit : ProxyUnit}
    (h : unit ∈ generator.batch.units) :
    ∃ type contract, Contract.ofType type = .ok contract ∧
      generator.template.unitFor generator.scope contract = .ok unit := by
  rw [batch, successes_eq, List.mem_filterMap] at h
  obtain ⟨entry, hentry, hunit⟩ := h
  obtain ⟨contract, rfl⟩ := success?_eq_some_iff.mp hunit
  obtain ⟨i, hi⟩ := List.mem_iff_getElem?.mp hentry
  obtain ⟨⟨_, hmade⟩, _⟩ := granted_iff.mpr ⟨contract, hi⟩
  obtain ⟨type, htype⟩ := exists_type_of_mem (List.mem_of_getElem? hmade)
  obtain ⟨accepted, haccepted, hmade⟩ := bind_eq_ok_iff.mp htype
  exact ⟨type, accepted, mapError_eq_ok_iff.mp haccepted, mapError_eq_ok_iff.mp hmade⟩

/-- The places of a batch that get a file and those that do not, with what the batch says of
each. -/
structure Settled (generator : Generator) (kept refused : List Nat) : Prop where
  partition : (kept ++ refused).Perm (List.range generator.selection.length)
  keptAscend : kept.Pairwise (· < ·)
  refusedAscend : refused.Pairwise (· < ·)
  kept_iff : ∀ i, i ∈ kept ↔ ∃ unit, Granted generator.outcomes i unit
  units : List.Forall₂ (Granted generator.outcomes) kept generator.batch.units
  failures : List.Forall₂ (Refused generator.outcomes) refused generator.batch.failures
  distinct : (generator.batch.units.map fun unit => Text.lowercase unit.fileName).Nodup
  events : generator.batch.events = generator.batch.failures.map fun (contract, fault) =>
    ⟨.error, .contractFailed, some contract, fault.message⟩

/-- Another batch may hold other contracts, and other failures among them. A contract of both fares
the same in both, as long as the same contract, or none, is the first before it to claim its
file. -/
def Isolated (generator : Generator) : Prop :=
  ∀ (other : Generator) (i j : Nat) (entry : Text × Option TypeDeclaration),
    other.scope = generator.scope → other.template = generator.template →
    generator.selection[i]? = some entry → other.selection[j]? = some entry →
    (∀ unit, generator.outcomeOf entry = .ok unit → ∀ first,
      (∃ k < i, FirstClaim generator.outcomes (Text.lowercase unit.fileName) first k) ↔
        ∃ k < j, FirstClaim other.outcomes (Text.lowercase unit.fileName) first k) →
    (∀ unit, Granted generator.outcomes i unit ↔ Granted other.outcomes j unit) ∧
      ∀ failure, Refused generator.outcomes i failure ↔ Refused other.outcomes j failure

theorem nodup_of_granted {outcomes : List (Text × Outcome)} {kept : List Nat}
    {units : List ProxyUnit} (hkept : kept.Pairwise (· < ·))
    (h : List.Forall₂ (Granted outcomes) kept units) :
    (units.map fun unit => Text.lowercase unit.fileName).Nodup := by
  induction h with
  | nil => exact List.nodup_nil
  | @cons i unit kept units hunit hrest ih =>
    obtain ⟨hfirst, hkept⟩ := List.pairwise_cons.mp hkept
    rw [List.map_cons, List.nodup_cons]
    refine ⟨?_, ih hkept⟩
    have hother : ∀ other ∈ units,
        Text.lowercase unit.fileName ≠ Text.lowercase other.fileName := by
      refine forall_mem_of_forall₂ hrest ?_
      intro j hj other hgranted
      obtain ⟨contract, hmade⟩ := hunit.made
      exact hgranted.unclaimed i (hfirst j hj) contract unit hmade
    intro hm
    obtain ⟨other, ho, hsame⟩ := List.mem_map.mp hm
    exact hother other ho hsame.symm

theorem isolated (generator : Generator) : Isolated generator := by
  intro other i j entry hscope htemplate hi hj hclaims
  have hsame : generator.selected[i]? = other.selected[j]? := by
    rw [getElem?_selected, getElem?_selected, outcomes_eq, outcomes_eq other,
      outcomeOf_congr hscope htemplate, List.getElem?_map, List.getElem?_map, hi, hj]
    rw [outcomes_eq, outcomes_eq other, outcomeOf_congr hscope htemplate] at hclaims
    simp only [Option.map_some, Option.some.injEq]
    cases houtcome : generator.outcomeOf entry with
    | error fault => rfl
    | ok unit =>
      have hfirst := hclaims unit houtcome
      simp only [← claimant?_take_eq_some_iff] at hfirst
      rw [settle, settle, Option.ext hfirst]
  refine ⟨fun unit => ?_, fun failure => ?_⟩
  · rw [granted_iff, granted_iff, hsame]
  · rw [refused_iff, refused_iff, hsame]

theorem granted_units (generator : Generator) :
    List.Forall₂ (Granted generator.outcomes) (positions success? generator.selected)
      generator.batch.units := by
  rw [batch, successes_eq]
  refine (forall₂_positions success? generator.selected).imp ?_
  rintro i unit ⟨result, hresult, hunit⟩
  obtain ⟨contract, rfl⟩ := success?_eq_some_iff.mp hunit
  exact granted_iff.mpr ⟨contract, hresult⟩

theorem refused_failures (generator : Generator) :
    List.Forall₂ (Refused generator.outcomes) (positions failure? generator.selected)
      generator.batch.failures := by
  rw [batch, failures_eq]
  refine (forall₂_positions failure? generator.selected).imp ?_
  rintro i ⟨contract, fault⟩ ⟨result, hresult, hfault⟩
  rw [failure?_eq_some_iff.mp hfault] at hresult
  exact refused_iff.mpr hresult

theorem nodup_files (generator : Generator) :
    (generator.batch.units.map fun unit => Text.lowercase unit.fileName).Nodup :=
  nodup_of_granted (pairwise_positions success? generator.selected) generator.granted_units

/-- Every selected contract gets its file or is refused, each in the order of the selection; only
an earlier contract that was generated for the same file can take it. -/
theorem batch_settled (generator : Generator) :
    (∃ kept refused, Settled generator kept refused) ∧ Isolated generator := by
  refine ⟨⟨positions success? generator.selected, positions failure? generator.selected, ?_,
    pairwise_positions _ _, pairwise_positions _ _, ?_, generator.granted_units,
    generator.refused_failures, generator.nodup_files, rfl⟩, isolated generator⟩
  · have hperm := perm_positions isSome_failure? generator.selected
    rwa [length_selected, outcomes_eq, List.length_map] at hperm
  · intro i
    simp only [granted_iff, mem_positions, success?_eq_some_iff]
    constructor
    · rintro ⟨result, unit, hresult, contract, rfl⟩
      exact ⟨unit, contract, hresult⟩
    · rintro ⟨unit, contract, hresult⟩
      exact ⟨_, unit, hresult, contract, rfl⟩

example :
    (batch
      { assembly :=
          ⟨"Acme", [⟨"Acme", "IDepot", .interface, true, []⟩,
            ⟨"Acme", "iDepot", .interface, true, []⟩]⟩
        scope := "Acme.Proxies"
        template := ⟨.default, .default⟩
        only := none }).failures =
      [⟨"Acme.iDepot", .duplicateOutput "RestartableDepot.cs" "Acme.IDepot" "Acme.iDepot"⟩] := by
  decide +kernel

end ContractProxy.Generator

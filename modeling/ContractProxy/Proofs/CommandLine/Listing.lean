import ContractProxy.Proofs.Batch.Assignment
import ContractProxy.Proofs.CommandLine.Effects
import ContractProxy.Proofs.Proxy.Refusal

/-!
Names in a listing and in a batch. A listing asks the naming rule about each exported interface. A
batch asks it only about those that are accepted as contracts, and what it makes of a name may still
be lost to a member or to another contract's file. Main statement: where both speak of a name they
say the same.
-/

set_option autoImplicit false

namespace ContractProxy

namespace Generator

variable {generator : Generator} {type : TypeDeclaration}

theorem named_of_ofType {unit : ProxyUnit} (h : generator.ofType type = .ok unit) :
    unit.contract = type.fullName ∧
      generator.template.naming.className type.name = .ok unit.className := by
  obtain ⟨contract, hcontract, hunit⟩ := bind_eq_ok_iff.mp h
  have hdescribes := (Contract.ofType_eq_ok_iff.mp (mapError_eq_ok_iff.mp hcontract)).2
  obtain ⟨_, _, className, _, hclass, _, rfl⟩ :=
    ProxyTemplate.unitFor_eq_ok_iff.mp (mapError_eq_ok_iff.mp hunit)
  exact ⟨hdescribes.fullName, hdescribes.name ▸ hclass⟩

theorem misnamed_of_ofType {fault : ClassNaming.Fault}
    (h : generator.ofType type = .error (.proxy (.naming fault))) :
    generator.template.naming.className type.name = .error fault := by
  rcases bind_eq_error_iff.mp h with h | ⟨contract, hcontract, h⟩
  · obtain ⟨_, _, h⟩ := mapError_eq_error_iff.mp h
    cases h
  · have hdescribes := (Contract.ofType_eq_ok_iff.mp (mapError_eq_ok_iff.mp hcontract)).2
    obtain ⟨found, hfound, h⟩ := mapError_eq_error_iff.mp h
    cases h
    exact hdescribes.name ▸ ProxyTemplate.className_of_unitFor_naming hfound

theorem getElem?_outcomes {i : Nat} {contract : Text} {outcome : Outcome}
    (hall : generator.only = none) (h : generator.outcomes[i]? = some (contract, outcome)) :
    ∃ type, generator.assembly.contracts[i]? = some type ∧ contract = type.fullName ∧
      generator.ofType type = outcome := by
  simp only [outcomes, hall, List.getElem?_map, Option.map_eq_some_iff, Prod.mk.injEq] at h
  obtain ⟨type, htype, rfl, rfl⟩ := h
  exact ⟨type, htype, rfl, rfl⟩

end Generator

namespace CommandLine

open Generator (success? failure? Granted Refused)

/-- A line that a listing adds to its output or to its errors. -/
abbrev Line := Except Text Text

inductive Lists (rule : ClassNaming) (type : TypeDeclaration) : Line → Prop
  | named {name : Text} (hname : rule.className type.name = .ok name) :
    Lists rule type (.ok (type.fullName ++ " -> " ++ name))
  | misnamed {fault : ClassNaming.Fault} (hfault : rule.className type.name = .error fault) :
    Lists rule type (.error (type.fullName ++ ": " ++ fault.message))

def outputs (lines : List Line) : List Text :=
  lines.filterMap fun
    | .ok line => some line
    | .error _ => none

def problems (lines : List Line) : List Text :=
  lines.filterMap fun
    | .error line => some line
    | .ok _ => none

/-- What ends the errors of a listing, given the number of contracts it has no class for. -/
def verdict (count : Nat) : List Text :=
  if count = 0 then [] else [Text.decimal count ++ " contract name(s) violate the naming rule"]

/-- A listing of contracts: a line for each in their order, and a failure that counts the names
which violate the rule, if there are any. -/
structure Listed (rule : ClassNaming) (contracts : List TypeDeclaration) (lines : List Line)
    (transcript : Transcript) : Prop where
  lists : List.Forall₂ (Lists rule) contracts lines
  output : transcript.output = outputs lines
  errors : transcript.errors = problems lines ++
    verdict (contracts.countP fun type => rule.Violates type.name)
  fails_iff : transcript.status ≠ 0 ↔ ∃ type ∈ contracts, rule.Violates type.name

def lineOf (rule : ClassNaming) (type : TypeDeclaration) : Line :=
  match rule.className type.name with
  | .ok name => .ok (type.fullName ++ " -> " ++ name)
  | .error fault => .error (type.fullName ++ ": " ++ fault.message)

theorem lists_iff {rule : ClassNaming} {type : TypeDeclaration} {line : Line} :
    Lists rule type line ↔ lineOf rule type = line := by
  rw [lineOf]
  constructor
  · intro h
    cases h with
    | named hname => rw [hname]
    | misnamed hfault => rw [hfault]
  · rintro rfl
    cases hclass : rule.className type.name with
    | ok name => exact .named hclass
    | error fault => exact .misnamed hclass

theorem length_problems (rule : ClassNaming) (contracts : List TypeDeclaration) :
    (problems (contracts.map (lineOf rule))).length =
      contracts.countP fun type => rule.Violates type.name := by
  induction contracts with
  | nil => rfl
  | cons type rest ih =>
    have hviolates : rule.Violates type.name ↔ _ := ClassNaming.violates_iff
    rw [List.countP_cons, ← ih, List.map_cons, problems, List.filterMap_cons, lineOf]
    cases hclass : rule.className type.name with
    | ok name => simp [hclass, hviolates, problems]
    | error fault => simp [hclass, hviolates, problems]

theorem filterMap_lines {rule : ClassNaming} {contracts : List TypeDeclaration}
    {part : Text × Except ClassNaming.Fault Text → Option Text} {own : Line → Option Text}
    (h : ∀ type, part (type.fullName, rule.className type.name) = own (lineOf rule type)) :
    (contracts.map fun type => (type.fullName, rule.className type.name)).filterMap part =
      (contracts.map (lineOf rule)).filterMap own := by
  rw [List.filterMap_map, List.filterMap_map]
  exact List.filterMap_congr fun type _ => h type

theorem listed_listing (rule : ClassNaming) (contracts : List TypeDeclaration) :
    Listed rule contracts (contracts.map (lineOf rule)) (listing rule contracts) := by
  have hlists : List.Forall₂ (Lists rule) contracts (contracts.map (lineOf rule)) := by
    rw [List.forall₂_map_right_iff, List.forall₂_same]
    exact fun type _ => lists_iff.mpr rfl
  have hcount := length_problems rule contracts
  unfold listing
  extract_lets named output errors
  have houtput : output = outputs (contracts.map (lineOf rule)) := by
    refine filterMap_lines fun type => ?_
    rw [lineOf]
    cases rule.className type.name <;> rfl
  have herrors : errors = problems (contracts.map (lineOf rule)) := by
    refine filterMap_lines fun type => ?_
    rw [lineOf]
    cases rule.className type.name <;> rfl
  rw [← herrors] at hcount
  split_ifs with hnone
  · rw [List.isEmpty_iff.mp hnone, List.length_nil] at hcount
    refine ⟨hlists, houtput, ?_, ?_⟩
    · rw [← herrors, ← hcount, List.isEmpty_iff.mp hnone]
      rfl
    · simpa [Transcript.succeeded, List.countP_eq_zero] using hcount.symm
  · have hpos : 0 < errors.length := by simpa [List.length_pos_iff] using hnone
    refine ⟨hlists, houtput, ?_, ?_⟩
    · rw [← herrors, ← hcount, verdict, if_neg (by omega)]
      rfl
    · rw [hcount, List.countP_pos_iff] at hpos
      simpa [Transcript.failed] using hpos

structure Opened (setting : Option Bytes) (request : Request) (tree : FileTree) (config : Config)
    (assembly : Assembly) : Prop where
  configured : ((Config.load request.config setting : StateM FileTree _) tree).1 = .ok config
  loaded : ∃ source, sourceOf request config = .ok source ∧
    ((Assembly.load source : StateM FileTree _) tree).1 = .ok assembly

theorem run_list {setting : Option Bytes} {request : Request} {tree : FileTree} {config : Config}
    {assembly : Assembly} (hverb : request.verb = .list)
    (h : Opened setting request tree config assembly) :
    (run setting request : StateM FileTree Transcript) tree =
      (listing config.naming assembly.contracts, tree) := by
  obtain ⟨hconfig, source, hsource, hassembly⟩ := h
  unfold run
  rw [(Config.reads_load _ _).bind_apply, hconfig]
  simp only [hverb, runList, hsource]
  rw [(Assembly.reads_load _).bind_apply, hassembly]
  rfl

def ListsUnit (generator : Generator) (lines : List Line) (i : Nat) (unit : ProxyUnit) : Prop :=
  ∃ type, generator.assembly.contracts[i]? = some type ∧ generator.ofType type = .ok unit ∧
    unit.contract = type.fullName ∧
    lines[i]? = some (.ok (type.fullName ++ " -> " ++ unit.className))

def ListsFailure (generator : Generator) (lines : List Line) (i : Nat) :
    Text × GenerateFault → Prop
  | (contract, fault) =>
    ∃ type, generator.assembly.contracts[i]? = some type ∧ contract = type.fullName ∧
      ∀ cause, fault = .proxy (.naming cause) →
        lines[i]? = some (.error (contract ++ ": " ++ fault.message))

/-- A listing has a line for each contract of a batch, and names the units and the failures of the
batch as the batch does. The places in the listing are those of units or those of failures. -/
structure Agrees (generator : Generator) (lines : List Line) (kept refused : List Nat) : Prop where
  partition : (kept ++ refused).Perm (List.range lines.length)
  keptAscend : kept.Pairwise (· < ·)
  refusedAscend : refused.Pairwise (· < ·)
  units : List.Forall₂ (ListsUnit generator lines) kept generator.batch.units
  failures : List.Forall₂ (ListsFailure generator lines) refused generator.batch.failures

section

variable {generator : Generator} {i : Nat}

theorem getElem?_lines {rule : ClassNaming} {contracts : List TypeDeclaration}
    {type : TypeDeclaration} {line : Line} (htype : contracts[i]? = some type)
    (hline : Lists rule type line) : (contracts.map (lineOf rule))[i]? = some line := by
  rw [List.getElem?_map, htype, Option.map_some, lists_iff.mp hline]

theorem listsUnit_of_granted {unit : ProxyUnit} (hall : generator.only = none)
    (h : Granted generator.outcomes i unit) :
    ListsUnit generator
      (generator.assembly.contracts.map (lineOf generator.template.naming)) i unit := by
  obtain ⟨contract, hmade⟩ := h.made
  obtain ⟨type, htype, rfl, hunit⟩ := Generator.getElem?_outcomes hall hmade
  obtain ⟨hcontract, hclass⟩ := Generator.named_of_ofType hunit
  exact ⟨type, htype, hunit, hcontract, getElem?_lines htype (.named hclass)⟩

theorem listsFailure_of_refused {failure : Text × GenerateFault} (hall : generator.only = none)
    (h : Refused generator.outcomes i failure) :
    ListsFailure generator
      (generator.assembly.contracts.map (lineOf generator.template.naming)) i failure := by
  cases h with
  | failed hfault =>
    obtain ⟨type, htype, rfl, houtcome⟩ := Generator.getElem?_outcomes hall hfault
    refine ⟨type, htype, rfl, ?_⟩
    rintro cause rfl
    exact getElem?_lines htype (.misnamed (Generator.misnamed_of_ofType houtcome))
  | claimed hunit hj hfirst =>
    -- A file that belongs to another contract has nothing to do with the naming rule.
    obtain ⟨type, htype, rfl, _⟩ := Generator.getElem?_outcomes hall hunit
    exact ⟨type, htype, rfl, fun cause hcause => nomatch hcause⟩

theorem agrees_lines (hall : generator.only = none) :
    Agrees generator (generator.assembly.contracts.map (lineOf generator.template.naming))
      (positions success? generator.selected) (positions failure? generator.selected) := by
  have hlength : generator.selected.length = generator.assembly.contracts.length := by
    simp only [Generator.length_selected, Generator.outcomes, hall, List.length_map]
  refine ⟨?_, pairwise_positions _ _, pairwise_positions _ _, ?_, ?_⟩
  · rw [List.length_map, ← hlength]
    exact perm_positions Generator.isSome_failure? generator.selected
  · exact generator.granted_units.imp fun i unit => listsUnit_of_granted hall
  · exact generator.refused_failures.imp fun i failure => listsFailure_of_refused hall

end

/-- Listing names the contracts as generating all of them does, whatever becomes of the files. It
fails exactly if a name violates the naming rule. -/
theorem listing_agrees {setting : Option Bytes} {request : Request} {tree : FileTree}
    {config : Config} {assembly : Assembly} (hverb : request.verb = .list)
    (hopened : Opened setting request tree config assembly) :
    ∃ lines transcript,
      (run setting request : StateM FileTree Transcript) tree = (transcript, tree) ∧
      Listed config.naming assembly.contracts lines transcript ∧
      ∀ scope, ∃ kept refused,
        Agrees ⟨assembly, scope, config.template, none⟩ lines kept refused := by
  have hlisted := listed_listing config.naming assembly.contracts
  refine ⟨_, _, run_list hverb hopened, hlisted, ?_⟩
  intro scope
  exact ⟨_, _, agrees_lines rfl⟩

def yardRequest : Request :=
  ⟨.list, .warn, none, some "acme.json", none, none, none⟩

/-- A contract, one with an unsupported member, and two names without a class, one of them with an
unsupported member. -/
def yard : Assembly where
  name := "Acme"
  types :=
    [⟨"Acme", "IDepot", .interface, true, []⟩,
      ⟨"Acme", "IGate", .interface, true, [.event "Opened"]⟩,
      ⟨"Acme", "Crate", .interface, true, []⟩,
      ⟨"Acme", "Lid", .interface, true, [.event "Opened"]⟩]

def yardTree : FileTree :=
  FileTree.empty.put "acme.json" (Text.utf8 yard.toJson.render)

def yardTranscript : Transcript where
  status := 1
  output := ["Acme.IDepot -> RestartableDepot", "Acme.IGate -> RestartableGate"]
  errors :=
    ["Acme.Crate: contract name 'Crate' must begin with 'I'",
      "Acme.Lid: contract name 'Lid' must begin with 'I'",
      "2 contract name(s) violate the naming rule"]

theorem opened_yard : Opened none yardRequest yardTree .default yard :=
  ⟨by decide +kernel, "acme.json", by decide +kernel, by decide +kernel⟩

theorem listing_yard : listing Config.default.naming yard.contracts = yardTranscript := by
  decide +kernel

theorem listing_agrees_yard :
    yardRequest.verb = .list ∧ Opened none yardRequest yardTree .default yard ∧
      (run none yardRequest : StateM FileTree Transcript) yardTree = (yardTranscript, yardTree) ∧
      ∃ lines kept refused, Listed Config.default.naming yard.contracts lines yardTranscript ∧
        Agrees ⟨yard, "Acme.Proxies", Config.default.template, none⟩ lines kept refused := by
  have hyard := run_list rfl opened_yard
  rw [listing_yard] at hyard
  obtain ⟨lines, transcript, hrun, hlisted, hagrees⟩ := listing_agrees rfl opened_yard
  obtain rfl : yardTranscript = transcript := congrArg Prod.fst (hyard.symm.trans hrun)
  obtain ⟨kept, refused, hagree⟩ := hagrees "Acme.Proxies"
  exact ⟨rfl, opened_yard, hyard, lines, kept, refused, hlisted, hagree⟩

end CommandLine

end ContractProxy

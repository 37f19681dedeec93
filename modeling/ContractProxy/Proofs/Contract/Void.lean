import ContractProxy.Proofs.Contract.Acceptance
import ContractProxy.Proofs.TypeRef.Spelling

/-!
Where the void type can stand in a contract. A name that is void once its arity and its array
suffixes are cut off is a plain return type or is refused. The comparison is made before the marks
of nested types become dots, so a type that is nested in another one can be spelled like void.
-/

set_option autoImplicit false

namespace ContractProxy

theorem Text.takeWhile_append_of_head {p : Char → Bool} {s tail : Text}
    (h : ∀ c ∈ tail.head?, p c = false) : (s ++ tail).takeWhile p = s.takeWhile p := by
  have hstop : tail.takeWhile p = [] := by
    cases tail with
    | nil => rfl
    | cons c rest => simp [h c rfl]
  rw [List.takeWhile_append]
  split_ifs with hlen
  · rw [hstop, List.append_nil]
    exact ((List.takeWhile_prefix p).eq_of_length hlen).symm
  · rfl

namespace TypeRef

/-- The beginning of a spelling, before type arguments and array suffixes. -/
def headOf (spelling : Text) : Text :=
  spelling.takeWhile fun c => c != '<' && c != '['

/-- The name of a type without arity and array suffixes. -/
def plainName (type : TypeRef) : Text :=
  type.name.takeWhile fun c => c != '\x60' && c != '['

theorem head?_argumentList {texts : List Text} {c : Char}
    (h : c ∈ (argumentList texts).head?) : c = '<' := by
  cases texts with
  | nil => simp [argumentList] at h
  | cons first others => simpa [argumentList, eq_comm] using h

theorem head?_suffixes {ranks : List Nat} {c : Char} (h : c ∈ (suffixes ranks).head?) :
    c = '[' := by
  cases ranks with
  | nil => simp [suffixes_nil] at h
  | cons rank rest => simpa [suffixes_cons, arraySuffix, eq_comm] using h

theorem head?_rankSuffix {rank : UInt32} {c : Char} (h : c ∈ (rankSuffix rank).head?) :
    c = '[' := by
  rw [rankSuffix] at h
  split_ifs at h
  · simp at h
  · simpa [arraySuffix, eq_comm] using h

theorem headOf_csharp (type : TypeRef) : headOf type.csharp = headOf (baseSpelling type.name) := by
  rw [csharp_eq, headOf, headOf, Text.takeWhile_append_of_head, Text.takeWhile_append_of_head]
  · intro c hc
    rw [head?_argumentList hc]
    rfl
  · intro c hc
    rw [head?_rankSuffix hc]
    rfl

section

variable {name base : Text} {arguments : Nat} {rank : UInt32} {ranks : List Nat}

theorem SoundNode.name_eq (h : SoundNode name arguments rank base ranks) :
    ∃ arity, name = stem base ++ (arity ++ suffixes ranks) ∧ ∀ c ∈ arity.head?, c = '\x60' := by
  have hparts : arrayParts ⟨name, [], 0⟩ = some (base, ranks) := h.parts
  obtain ⟨hname, _⟩ := name_eq_of_arrayParts hparts
  refine ⟨base.dropWhile (· != '\x60'), ?_, ?_⟩
  · rw [← List.append_assoc, stem_eq_takeWhile, List.takeWhile_append_dropWhile]
    exact hname
  · intro c hc
    have hdrop := List.head?_dropWhile_not (· != '\x60') base
    rw [Option.mem_def.mp hc] at hdrop
    simpa using hdrop

theorem SoundNode.not_mem_stem (h : SoundNode name arguments rank base ranks) {c : Char}
    (hplus : c ≠ '+') (hdot : c ≠ '.') (hc : CSharp.continuesIdentifier c = false) :
    c ∉ stem base := by
  intro hm
  have hdotted : c ∈ dotted (stem base) := by
    rw [dotted, List.mem_map]
    exact ⟨c, hm, by simp [hplus]⟩
  exact CSharp.not_mem_of_isDottedName h.named hdot hc hdotted

theorem SoundNode.takeWhile_name (h : SoundNode name arguments rank base ranks) :
    (name.takeWhile fun c => c != '\x60' && c != '[') = stem base := by
  obtain ⟨arity, hname, harity⟩ := h.name_eq
  rw [hname, Text.takeWhile_append_of_head, List.takeWhile_eq_self_iff]
  · intro c hc
    have hback : c ≠ '\x60' := fun heq =>
      h.not_mem_stem (by decide) (by decide) (by decide) (heq ▸ hc)
    have hbracket : c ≠ '[' := fun heq =>
      h.not_mem_stem (by decide) (by decide) (by decide) (heq ▸ hc)
    simp [hback, hbracket]
  · intro c hc
    rw [List.head?_append, Option.mem_def, Option.or_eq_some_iff] at hc
    rcases hc with hc | ⟨_, hc⟩
    · simp [harity c hc]
    · simp [head?_suffixes hc]

theorem SoundNode.headOf_baseSpelling (h : SoundNode name arguments rank base ranks)
    (hl : primitiveKeywords.lookup name = none) :
    headOf (baseSpelling name) = dotted (stem base) := by
  obtain ⟨arity, hname, harity⟩ := h.name_eq
  have hstem : stem name = stem base ++ (arity ++ suffixes ranks).takeWhile (· != '\x60') := by
    conv_lhs => rw [hname, stem_eq_takeWhile]
    refine List.takeWhile_append_of_pos ?_
    intro c hc
    rw [stem_eq_takeWhile] at hc
    exact List.mem_takeWhile_imp (p := (· != '\x60')) hc
  rw [baseSpelling_of_lookup hl, hstem, dotted_append, headOf, Text.takeWhile_append_of_head,
    List.takeWhile_eq_self_iff]
  · intro c hc
    have hless : c ≠ '<' := fun heq =>
      CSharp.not_mem_of_isDottedName h.named (by decide) (by decide) (heq ▸ hc)
    have hbracket : c ≠ '[' := fun heq =>
      CSharp.not_mem_of_isDottedName h.named (by decide) (by decide) (heq ▸ hc)
    simp [hless, hbracket]
  · -- An arity is cut off with all that follows it, so only array suffixes can be left.
    intro c hc
    obtain ⟨d, hd, rfl⟩ := Option.map_eq_some_iff.mp (List.head?_map ▸ hc)
    rw [List.head?_takeWhile, Option.filter_eq_some_iff, List.head?_append,
      Option.or_eq_some_iff] at hd
    obtain ⟨hd | ⟨_, hd⟩, hback⟩ := hd
    · simp [harity d hd] at hback
    · simp [head?_suffixes hd]

end

theorem eq_of_dotted_eq {name text : Text} (h : dotted name = text) (hdot : '.' ∉ text) :
    name = text := by
  have hplus : ∀ c ∈ name, c ≠ '+' := by
    rintro c hc rfl
    apply hdot
    rw [← h]
    exact List.mem_map.mpr ⟨'+', hc, rfl⟩
  rw [← h, dotted]
  conv_lhs => rw [← List.map_id name]
  refine List.map_congr_left ?_
  intro c hc
  simp [hplus c hc]

theorem dotted_eq_voidName_iff {name : Text} :
    dotted name = voidName ↔ name = voidName ∨ name = "System+Void" := by
  have hvoid : voidName = ("System" : Text) ++ '.' :: "Void" := rfl
  constructor
  · intro h
    rw [hvoid, dotted, List.map_eq_append_iff] at h
    obtain ⟨front, back, rfl, hfront, hback⟩ := h
    obtain ⟨c, nested, rfl, hc, hnested⟩ := List.map_eq_cons_iff.mp hback
    rw [eq_of_dotted_eq hfront (by decide), eq_of_dotted_eq hnested (by decide)]
    by_cases hplus : c = '+'
    · exact .inr (hplus ▸ rfl)
    · have hdot : c = '.' := by simpa [hplus] using hc
      exact .inl (hdot ▸ rfl)
  · intro h
    rcases h with rfl | rfl
    · decide
    · decide

theorem headOf_keyword : ∀ entry ∈ primitiveKeywords,
    headOf entry.2 ≠ voidName ∧ (headOf entry.2 = "void" → entry.1 = voidName) := by
  decide

theorem plainName_primitive : ∀ entry ∈ primitiveKeywords,
    (named entry.1).plainName = entry.1 ∧ entry.1 ≠ "System+Void" := by
  decide

theorem headOf_csharp_of_check {type : TypeRef} (h : type.check = .ok ()) :
    type.plainName ≠ voidName ∧ headOf type.csharp ≠ "void" ∧
      (headOf type.csharp = voidName ↔ type.plainName = "System+Void") := by
  obtain ⟨name, arguments, rank⟩ := type
  obtain ⟨base, ranks, hnode⟩ := checkNode_eq_ok_iff.mp (check_eq_ok_iff.mp h).1
  have hplain : plainName ⟨name, arguments, rank⟩ = stem base := hnode.takeWhile_name
  rw [hplain, headOf_csharp]
  refine ⟨hnode.notVoid, ?_⟩
  cases hl : primitiveKeywords.lookup name with
  | some keyword =>
    obtain ⟨hspelled, hvoid⟩ := headOf_keyword _ (Keyed.mem_of_lookup hl)
    obtain ⟨hown, hnested⟩ := plainName_primitive _ (Keyed.mem_of_lookup hl)
    have hname : stem base = name := hnode.takeWhile_name.symm.trans hown
    rw [baseSpelling, hl, hname]
    exact ⟨fun heq => hnode.notVoid (hname.trans (hvoid heq)), iff_of_false hspelled hnested⟩
  | none =>
    rw [hnode.headOf_baseSpelling hl, dotted_eq_voidName_iff]
    constructor
    · intro hvoid
      have hnamed := hnode.named
      rw [hvoid] at hnamed
      revert hnamed
      decide
    · exact or_iff_right hnode.notVoid

end TypeRef

def Member.types : Member → List TypeRef
  | .method _ parameters returns _ => parameters.map Parameter.type ++ returns.toList
  | .property _ type _ _ => [type]
  | _ => []

namespace Contract

open TypeRef (voidName headOf nodesAll)

/-- Every reference in the signatures of a contract, at any depth of the type arguments. -/
def references (contract : Contract) : List TypeRef :=
  nodesAll (contract.members.flatMap ContractMember.types)

def ReturnsVoid (member : Member) : Prop :=
  ∃ name parameters special,
    member = .method name parameters (some (TypeRef.named voidName)) special

theorem Expressible.check_of_mem_types {member : Member} (h : Expressible member) {type : TypeRef}
    (hm : type ∈ member.types) :
    type.check = .ok () ∨ type = TypeRef.named voidName ∧ ReturnsVoid member := by
  cases h with
  | property hname htype =>
    rw [Member.types, List.mem_singleton] at hm
    exact .inl (hm ▸ htype)
  | @method name parameters returns special hname hparameters hreturns =>
    rw [Member.types, List.mem_append] at hm
    rcases hm with hm | hm
    · obtain ⟨parameter, hp, rfl⟩ := List.mem_map.mp hm
      exact .inl (hparameters.each parameter hp).2
    · rw [Option.mem_toList] at hm
      obtain rfl := Option.mem_def.mp hm
      rcases hreturns with rfl | hcheck
      · exact .inr ⟨rfl, name, parameters, special, rfl⟩
      · exact .inl hcheck

theorem check_of_mem_references {type : TypeDeclaration} {contract : Contract}
    (h : ofType type = .ok contract) {node : TypeRef} (hm : node ∈ contract.references) :
    node.check = .ok () := by
  obtain ⟨hacceptable, hdescribes⟩ := ofType_eq_ok_iff.mp h
  have hmembers : ∀ result ∈ contract.members, ∀ own ∈ result.types, own.check = .ok () := by
    refine forall_mem_of_forall₂ hdescribes.members ?_
    intro member hmember result hforwarded own hown
    exact hforwarded.check_of_mem_types hown (hacceptable.members member hmember)
  refine TypeRef.check_of_mem_nodesAll ?_ hm
  intro own hown
  obtain ⟨result, hresult, hown⟩ := List.mem_flatMap.mp hown
  exact hmembers result hresult own hown

/-- Void by name is a plain return type of the declared members and stands nowhere in the contract.
What is spelled like void there is a type nested in another one. -/
theorem headOf_csharp_of_mem_references {type : TypeDeclaration} {contract : Contract}
    (h : ofType type = .ok contract) :
    (∀ node ∈ contract.references, node.plainName ≠ voidName ∧ headOf node.csharp ≠ "void" ∧
      (headOf node.csharp = voidName ↔ node.plainName = "System+Void")) ∧
    ∀ member ∈ properMembers type, ∀ node ∈ nodesAll member.types, node.plainName = voidName →
      node = TypeRef.named voidName ∧ ReturnsVoid member := by
  constructor
  · intro node hm
    exact TypeRef.headOf_csharp_of_check (check_of_mem_references h hm)
  · intro member hmember node hm hvoid
    rw [TypeRef.nodesAll_eq_flatMap, List.mem_flatMap] at hm
    obtain ⟨own, hown, hm⟩ := hm
    have hexpressible := (ofType_eq_ok_iff.mp h).1.members member hmember
    rcases hexpressible.check_of_mem_types hown with hcheck | ⟨rfl, hreturns⟩
    · have hnode := TypeRef.headOf_csharp_of_check (TypeRef.check_of_mem_nodes hcheck hm)
      exact absurd hvoid hnode.1
    · have heq : node = TypeRef.named voidName := by
        simpa [TypeRef.named, TypeRef.nodes, TypeRef.nodesAll] using hm
      exact ⟨heq, hreturns⟩

def resetMethod : Member :=
  .method "Reset" [⟨"count", .named "System.Int32"⟩] (some (.named "System.Void")) false

/-- An interface with a method that returns void, and with a property whose type is nested. -/
def signal : TypeDeclaration where
  scope := "Acme"
  name := "ISignal"
  kind := .interface
  exported := true
  members := [resetMethod, .property "Pending" (.named "System+Void") true false]

def signalContract : Contract where
  name := "ISignal"
  fullName := "Acme.ISignal"
  members :=
    [.method "Reset" [⟨"count", .named "System.Int32"⟩] none,
      .property "Pending" (.named "System+Void") false]

theorem ofType_signal : ofType signal = .ok signalContract := by
  decide

theorem headOf_csharp_of_mem_references_signal :
    ofType signal = .ok signalContract ∧ TypeRef.named "System+Void" ∈ signalContract.references ∧
      headOf (TypeRef.named "System+Void").csharp = voidName ∧
      resetMethod ∈ properMembers signal ∧ ReturnsVoid resetMethod := by
  obtain ⟨hcontract, hdeclared⟩ := headOf_csharp_of_mem_references ofType_signal
  have hm : TypeRef.named "System+Void" ∈ signalContract.references := by decide
  have hreset : resetMethod ∈ properMembers signal := by decide
  have hvoid : TypeRef.named voidName ∈ nodesAll resetMethod.types := by decide
  obtain ⟨_, hreturns⟩ := hdeclared _ hreset _ hvoid (by decide)
  exact ⟨ofType_signal, hm, (hcontract _ hm).2.2.mpr (by decide), hreset, hreturns⟩

/-- The property of this contract is accepted, and its type is spelled like void. -/
theorem spelledVoid_signal :
    ofType signal = .ok signalContract ∧ TypeRef.named "System+Void" ∈ signalContract.references ∧
      (TypeRef.named "System+Void").csharp = "System.Void" ∧
      headOf (TypeRef.named "System+Void").csharp = voidName := by
  decide

end Contract

end ContractProxy

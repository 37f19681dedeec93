import ContractProxy.Proofs.Contract.Member
import ContractProxy.Proofs.TypeRef.Grammar

/-!
What a reference outside the grammar is refused with. The complaints about a node stand in a fixed
order and the first that applies is reported. Only a node without complaint is followed into its
arguments, and then the first argument that is refused decides.
-/

set_option autoImplicit false

namespace ContractProxy

namespace TypeRef

/-- A complaint about a node, apart from its arguments, with its place in the order. The largest rank
is reported as a word of 32 bits, so one beyond that is reported as the largest word. -/
inductive Complaint (name : Text) (arguments : Nat) (rank : UInt32) : Nat → Fault → Prop where
  | brackets : MalformedBrackets name → Complaint name arguments rank 0 (.invalid name)
  | rank {stem : Text} {digits : Option Text} {ranks : List Nat} {largest : Nat} :
      Parts name stem digits ranks → IsGreatest (ranksOf ranks rank) largest → maxRank < largest →
      Complaint name arguments rank 1 (.rankTooLarge (min largest (UInt32.size - 1)))
  | numeral {stem digits : Text} {ranks : List Nat} : Parts name stem (some digits) ranks →
      ¬ Numeral digits → Complaint name arguments rank 2 (.invalid name)
  | void {digits : Option Text} {ranks : List Nat} : Parts name voidName digits ranks →
      Complaint name arguments rank 3 .void
  | words {stem : Text} {digits : Option Text} {ranks : List Nat} : Parts name stem digits ranks →
      ¬ Words stem → Complaint name arguments rank 4 (.invalid name)
  | arity {stem digits : Text} {ranks : List Nat} : Parts name stem (some digits) ranks →
      Numeral digits → numeralValue digits ≠ arguments →
      Complaint name arguments rank 4 (.invalid name)

/-- The complaint that applies while none with an earlier place does. -/
def FirstComplaint (name : Text) (arguments : Nat) (rank : UInt32) (fault : Fault) : Prop :=
  ∃ place, Complaint name arguments rank place fault ∧
    ∀ earlier < place, ∀ other, ¬ Complaint name arguments rank earlier other

inductive Refused : TypeRef → Fault → Prop where
  | node {name : Text} {arguments : List TypeRef} {rank : UInt32} {fault : Fault} :
      FirstComplaint name arguments.length rank fault → Refused ⟨name, arguments, rank⟩ fault
  | argument {name : Text} {before after : List TypeRef} {type : TypeRef} {rank : UInt32}
      {fault : Fault} :
      (∀ place other, ¬ Complaint name (before ++ type :: after).length rank place other) →
      (∀ earlier ∈ before, Grammatical earlier) → Refused type fault →
      Refused ⟨name, before ++ type :: after, rank⟩ fault

variable {name stem : Text} {arguments : Nat} {rank : UInt32} {digits : Option Text}
  {ranks : List Nat} {fault : Fault}

theorem complaint_of_malformed {place : Nat} (h : MalformedBrackets name) :
    Complaint name arguments rank place fault ↔ place = 0 ∧ fault = .invalid name := by
  have hnone : ∀ {stem digits ranks}, ¬ Parts name stem digits ranks := by
    intro stem digits ranks hparts
    exact exists_parts_iff.mp ⟨stem, digits, ranks, hparts⟩ h
  constructor
  · intro hc
    cases hc with
    | brackets => exact ⟨rfl, rfl⟩
    | rank hparts => exact absurd hparts hnone
    | numeral hparts => exact absurd hparts hnone
    | void hparts => exact absurd hparts hnone
    | words hparts => exact absurd hparts hnone
    | arity hparts => exact absurd hparts hnone
  · intro hc
    obtain ⟨rfl, rfl⟩ := hc
    exact .brackets h

theorem Parts.complaint_iff {place : Nat} (h : Parts name stem digits ranks) :
    Complaint name arguments rank place fault ↔
      (place = 1 ∧ maxRank < widestRank ranks rank ∧
        fault = .rankTooLarge (widestRank ranks rank)) ∨
      (place = 2 ∧ digits.map arity? = some none ∧ fault = .invalid name) ∨
      (place = 3 ∧ stem = voidName ∧ fault = .void) ∨
      (place = 4 ∧ (CSharp.isDottedName (dotted stem) = false ∨
        ∃ text, digits = some text ∧ Numeral text ∧ numeralValue text ≠ arguments) ∧
        fault = .invalid name) := by
  have hlimit : ∀ largest, maxRank < min largest (UInt32.size - 1) ↔ maxRank < largest := by
    intro largest
    simp only [maxRank, UInt32.size]
    omega
  constructor
  · intro hc
    cases hc with
    | brackets hmalformed => exact absurd hmalformed (exists_parts_iff.mp ⟨stem, digits, ranks, h⟩)
    | rank hparts hlargest hwide =>
      obtain ⟨rfl, rfl, rfl⟩ := h.unique hparts
      rw [widestRank_of_isGreatest hlargest, hlimit]
      exact .inl ⟨rfl, hwide, rfl⟩
    | numeral hparts hnumeral =>
      obtain ⟨rfl, rfl, rfl⟩ := h.unique hparts
      exact .inr (.inl ⟨rfl, congrArg some (arity?_eq_none_iff.mpr hnumeral), rfl⟩)
    | void hparts =>
      obtain ⟨rfl, rfl, rfl⟩ := h.unique hparts
      exact .inr (.inr (.inl ⟨rfl, rfl, rfl⟩))
    | words hparts hwords =>
      obtain ⟨rfl, rfl, rfl⟩ := h.unique hparts
      rw [← isDottedName_dotted_iff, Bool.not_eq_true] at hwords
      exact .inr (.inr (.inr ⟨rfl, .inl hwords, rfl⟩))
    | arity hparts hnumeral hvalue =>
      obtain ⟨rfl, rfl, rfl⟩ := h.unique hparts
      exact .inr (.inr (.inr ⟨rfl, .inr ⟨_, rfl, hnumeral, hvalue⟩, rfl⟩))
  · intro hc
    rcases hc with ⟨rfl, hwide, rfl⟩ | ⟨rfl, hdigits, rfl⟩ | ⟨rfl, rfl, rfl⟩ |
      ⟨rfl, hname | ⟨text, rfl, hnumeral, hvalue⟩, rfl⟩
    · obtain ⟨largest, hlargest⟩ := exists_isGreatest ranks rank
      rw [widestRank_of_isGreatest hlargest] at hwide ⊢
      exact .rank h hlargest ((hlimit largest).mp hwide)
    · obtain ⟨text, rfl, hnone⟩ := Option.map_eq_some_iff.mp hdigits
      exact .numeral h (arity?_eq_none_iff.mp hnone)
    · exact .void h
    · rw [← Bool.not_eq_true, isDottedName_dotted_iff] at hname
      exact .words h hname
    · exact .arity h hnumeral hvalue

theorem exists_arity?_ne_iff (h : digits.map arity? ≠ some none) :
    (∃ text, digits = some text ∧ arity? text ≠ some arguments) ↔
      ∃ text, digits = some text ∧ Numeral text ∧ numeralValue text ≠ arguments := by
  constructor
  · intro harity
    obtain ⟨text, rfl, hne⟩ := harity
    have hnumeral : Numeral text := by
      by_contra hnot
      exact h (congrArg some (arity?_eq_none_iff.mpr hnot))
    exact ⟨text, rfl, hnumeral, fun hvalue => hne (arity?_eq_some_iff.mpr ⟨hnumeral, hvalue⟩)⟩
  · intro hvalue
    obtain ⟨text, rfl, _, hne⟩ := hvalue
    exact ⟨text, rfl, fun harity => hne (arity?_eq_some_iff.mp harity).2⟩

theorem checkNode_complaint (name : Text) (arguments : Nat) (rank : UInt32) :
    (checkNode name arguments rank = .ok () ∧
      ∀ place other, ¬ Complaint name arguments rank place other) ∨
    ∃ fault, checkNode name arguments rank = .error fault ∧
      FirstComplaint name arguments rank fault := by
  cases hpeel : peelSuffixes none [] name.reverse with
  | none =>
    have hmalformed := peelSuffixes_eq_none_iff.mp hpeel
    refine .inr ⟨.invalid name, by rw [checkNode, hpeel], 0, .brackets hmalformed, ?_⟩
    intro earlier hlt
    exact absurd hlt (Nat.not_lt_zero earlier)
  | some parts =>
    obtain ⟨base, ranks⟩ := parts
    have hparts : Parts name (TypeRef.stem base) (splitArity base).2 ranks :=
      parts_iff.mpr ⟨base, hpeel, rfl⟩
    rw [checkNode_of_parts hpeel]
    simp only [FirstComplaint, hparts.complaint_iff]
    -- Each test that fails rules out the complaints of its place.
    split_ifs with hwide hdigits hvoid hname harity
    · exact .inr ⟨_, rfl, 1, .inl ⟨rfl, hwide, rfl⟩, by grind⟩
    · exact .inr ⟨_, rfl, 2, .inr (.inl ⟨rfl, hdigits, rfl⟩), by grind⟩
    · exact .inr ⟨_, rfl, 3, .inr (.inr (.inl ⟨rfl, hvoid, rfl⟩)), by grind⟩
    · exact .inr ⟨_, rfl, 4, .inr (.inr (.inr ⟨rfl, .inl hname, rfl⟩)), by grind⟩
    · rw [exists_arity?_ne_iff hdigits] at harity
      exact .inr ⟨_, rfl, 4, .inr (.inr (.inr ⟨rfl, .inr harity, rfl⟩)), by grind⟩
    · rw [exists_arity?_ne_iff hdigits] at harity
      exact .inl ⟨rfl, by grind⟩

theorem Complaint.unique {place : Nat} {other : Fault}
    (h : Complaint name arguments rank place fault)
    (h' : Complaint name arguments rank place other) : fault = other := by
  by_cases hparts : ∃ stem digits ranks, Parts name stem digits ranks
  · obtain ⟨stem, digits, ranks, hparts⟩ := hparts
    rw [hparts.complaint_iff] at h h'
    grind
  · rw [exists_parts_iff, not_not] at hparts
    rw [complaint_of_malformed hparts] at h h'
    rw [h.2, h'.2]

theorem FirstComplaint.unique {other : Fault} (h : FirstComplaint name arguments rank fault)
    (h' : FirstComplaint name arguments rank other) : fault = other := by
  obtain ⟨place, hc, hfirst⟩ := h
  obtain ⟨place', hc', hfirst'⟩ := h'
  rcases Nat.lt_trichotomy place place' with hlt | rfl | hlt
  · exact absurd hc (hfirst' place hlt fault)
  · exact hc.unique hc'
  · exact absurd hc' (hfirst place' hlt other)

theorem checkNode_eq_error_iff :
    checkNode name arguments rank = .error fault ↔ FirstComplaint name arguments rank fault := by
  rcases checkNode_complaint name arguments rank with ⟨hok, hnone⟩ | ⟨found, herror, hfound⟩
  · rw [hok]
    constructor
    · intro h
      cases h
    · intro h
      obtain ⟨place, hc, _⟩ := h
      exact absurd hc (hnone place fault)
  · rw [herror]
    constructor
    · intro h
      cases h
      exact hfound
    · intro h
      rw [hfound.unique h]

theorem checkNode_eq_ok_iff_no_complaint :
    checkNode name arguments rank = .ok () ↔
      ∀ place other, ¬ Complaint name arguments rank place other := by
  rcases checkNode_complaint name arguments rank with ⟨hok, hnone⟩ | ⟨found, herror, hfound⟩
  · exact iff_of_true hok hnone
  · rw [herror]
    obtain ⟨place, hc, _⟩ := hfound
    exact iff_of_false (by simp) (fun hnone => hnone place found hc)

theorem checkAll_eq_mapM (types : List TypeRef) :
    checkAll types = types.mapM check >>= fun _ => .ok () := by
  induction types with
  | nil => rfl
  | cons type others ih =>
    rw [checkAll, ih, List.mapM_cons]
    simp only [bind_assoc, pure_bind]

theorem checkAll_eq_error_iff {types : List TypeRef} :
    checkAll types = .error fault ↔
      ∃ before type after, types = before ++ type :: after ∧
        (∀ earlier ∈ before, earlier.check = .ok ()) ∧ type.check = .error fault := by
  rw [checkAll_eq_mapM, bind_eq_error_iff, mapM_eq_error_iff]
  simp [Unique.exists_iff]

theorem check_eq_error_iff (type : TypeRef) :
    ∀ fault, type.check = .error fault ↔ Refused type fault := by
  induction type using argumentInduction with
  | node name arguments rank ih =>
    intro fault
    rw [check, then_eq_error_iff, checkNode_eq_error_iff, checkNode_eq_ok_iff_no_complaint,
      checkAll_eq_error_iff]
    constructor
    · intro h
      rcases h with hfirst | ⟨hnone, before, type, after, rfl, hbefore, htype⟩
      · exact .node hfirst
      · refine .argument hnone ?_ ((ih type (by simp) fault).mp htype)
        intro earlier hm
        exact (check_eq_ok_iff_grammatical earlier).mp (hbefore earlier hm)
    · intro h
      cases h with
      | node hfirst => exact .inl hfirst
      | argument hnone hbefore hrefused =>
        refine .inr ⟨hnone, _, _, _, rfl, ?_, (ih _ (by simp) fault).mpr hrefused⟩
        intro earlier hm
        exact (check_eq_ok_iff_grammatical earlier).mpr (hbefore earlier hm)

example : check ⟨"System.Void[]", [named "T]"], 33⟩ = .error (.rankTooLarge 33) := by
  decide

end TypeRef

namespace Contract

/-- The types that a member may use are the references of the grammar. Any other is refused with its
first complaint, or with that of its first argument outside the grammar. -/
theorem requireType_grammar (member : Text) (type : TypeRef) :
    (requireType member type = .ok () ↔ type.Grammatical) ∧
      ∀ cause, requireType member type = .error cause ↔
        ∃ fault, type.Refused fault ∧ cause = typeCause member fault := by
  constructor
  · rw [requireType_eq_ok_iff, TypeRef.check_eq_ok_iff_grammatical]
  · intro cause
    simp only [requireType_eq_error_iff, TypeRef.check_eq_error_iff]

end Contract

end ContractProxy

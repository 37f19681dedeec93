import ContractProxy.Proofs.Proxy.TypeReading

/-!
The texts that a reader goes through to the end of a type are those that spell one. In one direction
each part of a type leaves the reader behind it; in the other, what the reader has gone through is at
any point what stands in front of a type, with the part at hand.
-/

set_option autoImplicit false

namespace ContractProxy.CSharp

open ProxyOptions (separatesNames)

/-- A reading behind a part of a type that began where one was expected. -/
structure Behind (part : TypePart) (depth : Nat) (reading : Reading) : Prop where
  spot : reading.spot ≠ .dot
  depth : reading.nesting.depth = depth
  phase : reading.nesting.phase ≠ .expecting
  named : part = .name → reading.nesting.phase = .named

namespace Behind

variable {part : TypePart} {depth : Nat} {reading : Reading}

theorem of_ne_name (h : Behind part depth reading) {outer : TypePart} (hne : outer ≠ .name) :
    Behind outer depth reading :=
  ⟨h.spot, h.depth, h.phase, fun heq => absurd heq hne⟩

theorem step_blank (h : Behind part depth reading) :
    ∃ next, reading.step ' ' = some next ∧ Behind part depth next :=
  ⟨⟨.blank, reading.nesting⟩, (Reading.step_separator rfl).mpr ⟨h.spot, rfl, rfl⟩,
    ⟨by simp, h.depth, h.phase, h.named⟩⟩

theorem step_open (h : Behind .name depth reading) :
    reading.step '<' = some ⟨.blank, depth + 1, .expecting⟩ := by
  refine (Reading.step_separator rfl).mpr ⟨h.spot, rfl, ?_⟩
  rw [Nesting.separator, if_pos (h.named rfl), h.depth]

theorem step_comma (h : Behind part depth reading) (hdepth : 0 < depth) :
    reading.step ',' = some ⟨.blank, depth, .expecting⟩ := by
  refine (Reading.step_separator rfl).mpr ⟨h.spot, rfl, ?_⟩
  rw [Nesting.separator, h.depth, if_pos ⟨h.phase, hdepth⟩]

theorem step_close (h : Behind part (depth + 1) reading) :
    reading.step '>' = some ⟨.blank, depth, .closed⟩ := by
  refine (Reading.step_separator rfl).mpr ⟨h.spot, rfl, ?_⟩
  rw [Nesting.separator, h.depth, if_pos ⟨h.phase, Nat.succ_pos depth⟩]
  rfl

end Behind

theorem Spells.foldlM {part : TypePart} {t : Text} (h : Spells Dotted part t) {depth : Nat}
    (hdepth : part = .arguments → 0 < depth) :
    ∃ reading, t.foldlM Reading.step ⟨.blank, depth, .expecting⟩ = some reading ∧
      Behind part depth reading := by
  induction h generalizing depth with
  | word hname =>
    rw [Reading.foldlM_dotted hname]
    exact ⟨⟨.inside, depth, .named⟩, rfl, by simp, rfl, by simp, fun _ => rfl⟩
  | plain _ ih =>
    obtain ⟨reading, hrun, hbehind⟩ := ih (by simp)
    exact ⟨reading, hrun, hbehind.of_ne_name (by simp)⟩
  | generic _ _ ihname iharguments =>
    obtain ⟨behindName, hname, hopen⟩ := @ihname depth (by simp)
    obtain ⟨behindList, hlist, hclose⟩ := @iharguments (depth + 1) (by simp)
    refine ⟨⟨.blank, depth, .closed⟩, ?_, by simp, rfl, by simp, by simp⟩
    simp only [List.foldlM_append, List.foldlM_cons, List.foldlM_nil, Option.bind_eq_bind, hname,
      Option.bind_some, hopen.step_open, hlist, hclose.step_close]
    rfl
  | last _ ih =>
    obtain ⟨reading, hrun, hbehind⟩ := ih (by simp)
    exact ⟨reading, hrun, hbehind.of_ne_name (by simp)⟩
  | more _ _ ihtype ihothers =>
    have hopen := hdepth rfl
    obtain ⟨behindType, htype, hnext⟩ := @ihtype depth (by simp)
    obtain ⟨reading, hothers, hbehind⟩ := ihothers hdepth
    refine ⟨reading, ?_, hbehind⟩
    simp only [List.foldlM_append, List.foldlM_cons, Option.bind_eq_bind, htype, Option.bind_some,
      hnext.step_comma hopen, hothers]
  | leading _ ih =>
    exact ih hdepth
  | trailing _ ih =>
    obtain ⟨reading, hrun, hbehind⟩ := ih hdepth
    obtain ⟨next, hstep, hnext⟩ := hbehind.step_blank
    refine ⟨next, ?_, hnext⟩
    rw [List.foldlM_append, hrun]
    simpa using hstep

/-- What stands in front of a type at a depth: for each open list a name and the types before. -/
inductive Before : Nat → Text → Prop
  | start : Before 0 []
  | blank {depth : Nat} {before : Text} : Before depth before → Before depth (before ++ [' '])
  | opened {depth : Nat} {before name : Text} : Before depth before → Spells Dotted .name name →
      Before (depth + 1) (before ++ name ++ ['<'])
  | next {depth : Nat} {before type : Text} : Before (depth + 1) before →
      Spells Dotted .type type → Before (depth + 1) (before ++ type ++ [','])

theorem Before.outermost {depth : Nat} {before : Text} (h : Before depth before)
    (hdepth : depth = 0) {part : TypePart} {t : Text} (ht : Spells Dotted part t) :
    Spells Dotted part (before ++ t) := by
  induction h generalizing t with
  | start => exact ht
  | blank _ ih =>
    rw [List.append_assoc]
    exact ih hdepth (.leading ht)
  | opened => cases hdepth
  | next => cases hdepth

theorem Before.close {depth outer : Nat} {before : Text} (h : Before depth before)
    (hdepth : depth = outer + 1) {arguments : Text}
    (harguments : Spells Dotted .arguments arguments) :
    ∃ front type, before ++ arguments ++ ['>'] = front ++ type ∧ Before outer front ∧
      Spells Dotted .type type := by
  induction h generalizing arguments with
  | start => cases hdepth
  | blank _ ih =>
    rw [List.append_assoc _ [' ']]
    exact ih hdepth (.leading harguments)
  | @opened _ before name hbefore hname _ =>
    cases hdepth
    refine ⟨before, name ++ '<' :: (arguments ++ ['>']), ?_, hbefore, .generic hname harguments⟩
    simp
  | @next _ before type _ htype ih =>
    have hlist : before ++ type ++ [','] ++ arguments = before ++ (type ++ ',' :: arguments) := by
      simp
    rw [hlist]
    exact ih hdepth (.more htype harguments)

/-- What a reader with this nesting has gone through, if it stands behind no dot. -/
def Nesting.After (nesting : Nesting) (t : Text) : Prop :=
  match nesting.phase with
  | .expecting => Before nesting.depth t
  | .named => ∃ before name, t = before ++ name ∧ Before nesting.depth before ∧
      Spells Dotted .name name
  | .closed => ∃ before type, t = before ++ type ∧ Before nesting.depth before ∧
      Spells Dotted .type type

namespace Nesting.After

variable {nesting next : Nesting} {t : Text}

theorem exists_type (h : nesting.After t) (hphase : nesting.phase ≠ .expecting) :
    ∃ before type, t = before ++ type ∧ Before nesting.depth before ∧ Spells Dotted .type type := by
  obtain ⟨depth, phase⟩ := nesting
  cases phase with
  | expecting => exact absurd rfl hphase
  | named =>
    obtain ⟨before, name, ht, hbefore, hname⟩ := h
    exact ⟨before, name, ht, hbefore, .plain hname⟩
  | closed => exact h

theorem exists_type_inside (h : nesting.After t)
    (hinside : nesting.phase ≠ .expecting ∧ 0 < nesting.depth) :
    ∃ outer before type, nesting.depth = outer + 1 ∧ t = before ++ type ∧
      Before (outer + 1) before ∧ Spells Dotted .type type := by
  obtain ⟨before, type, ht, hbefore, htype⟩ := h.exists_type hinside.1
  obtain ⟨outer, houter⟩ := Nat.exists_eq_add_one.mpr hinside.2
  rw [houter] at hbefore
  exact ⟨outer, before, type, houter, ht, hbefore, htype⟩

theorem blank (h : nesting.After t) : nesting.After (t ++ [' ']) := by
  obtain ⟨depth, phase⟩ := nesting
  cases phase with
  | expecting => exact Before.blank h
  | named =>
    obtain ⟨before, name, rfl, hbefore, hname⟩ := h
    exact ⟨before, name ++ [' '], List.append_assoc _ _ _, hbefore, .trailing hname⟩
  | closed =>
    obtain ⟨before, type, rfl, hbefore, htype⟩ := h
    exact ⟨before, type ++ [' '], List.append_assoc _ _ _, hbefore, .trailing htype⟩

theorem name (h : nesting.After t) {name : Text} (hname : Dotted name)
    (hnext : nesting.name = some next) : next.After (t ++ name) := by
  obtain ⟨depth, phase⟩ := nesting
  unfold Nesting.name at hnext
  split_ifs at hnext with hphase
  obtain rfl : phase = .expecting := hphase
  cases hnext
  exact ⟨t, name, rfl, h, .word hname⟩

theorem separator (h : nesting.After t) {c : Char} (hnext : nesting.separator c = some next) :
    next.After (t ++ [c]) := by
  unfold Nesting.separator at hnext
  split at hnext
  · cases hnext
    exact h.blank
  · -- A list is opened behind a name.
    split_ifs at hnext with hphase
    cases hnext
    unfold After at h
    rw [hphase] at h
    obtain ⟨before, name, rfl, hbefore, hname⟩ := h
    exact .opened hbefore hname
  · -- The type at hand is one of the open list.
    split_ifs at hnext with hinside
    cases hnext
    obtain ⟨outer, before, type, houter, rfl, hbefore, htype⟩ := h.exists_type_inside hinside
    show Before nesting.depth _
    rw [houter]
    exact .next hbefore htype
  · -- It is the last one.
    split_ifs at hnext with hinside
    cases hnext
    obtain ⟨outer, before, type, houter, rfl, hbefore, htype⟩ := h.exists_type_inside hinside
    rw [houter]
    exact hbefore.close rfl (.last htype)
  · cases hnext

end Nesting.After

theorem Nesting.After.plain {nesting : Nesting} {before t : Text} (h : nesting.After before)
    (hplain : ∀ c ∈ t, separatesNames c = false) {reading : Reading}
    (hrun : t.foldlM Reading.step ⟨.blank, nesting⟩ = some reading) (hspot : reading.spot ≠ .dot) :
    reading.nesting.After (before ++ t) := by
  rcases Spot.dotted_of_foldlM hplain (by simp) (Reading.spot_of_foldlM hrun) hspot with
    ⟨rfl, _⟩ | ⟨hdotted, _⟩
  · cases hrun
    rwa [List.append_nil]
  · rw [Reading.foldlM_dotted hdotted] at hrun
    exact h.name hdotted (Reading.enter_eq_some_iff.mp hrun).2

theorem Nesting.After.foldlM {nesting : Nesting} {before t : Text} (h : nesting.After before)
    {reading : Reading} (hrun : t.foldlM Reading.step ⟨.blank, nesting⟩ = some reading)
    (hspot : reading.spot ≠ .dot) : reading.nesting.After (before ++ t) := by
  induction t using Text.cutInduction separatesNames generalizing nesting before with
  | last s hplain => exact h.plain hplain hrun hspot
  | cut s c rest hplain hc ih =>
    -- The reader is between two names again behind the separator.
    simp only [List.foldlM_append, List.foldlM_cons, Option.bind_eq_bind,
      Option.bind_eq_some_iff] at hrun
    obtain ⟨middle, hfront, after, hstep, hrest⟩ := hrun
    obtain ⟨hmiddle, hblank, hseparator⟩ := (Reading.step_separator hc).mp hstep
    obtain ⟨spot, outer⟩ := after
    obtain rfl : spot = .blank := hblank
    have hafter := (h.plain hplain hfront hmiddle).separator hseparator
    have hwhole : before ++ (s ++ c :: rest) = before ++ s ++ [c] ++ rest := by simp
    rw [hwhole]
    exact ih hafter hrest

theorem spells_type_iff {t : Text} :
    Spells Dotted .type t ↔ (t.foldlM Reading.step Reading.start).any Reading.isWhole = true := by
  rw [Option.any_eq_true]
  constructor
  · intro h
    obtain ⟨reading, hrun, hbehind⟩ := @Spells.foldlM _ _ h 0 (by simp)
    exact ⟨reading, hrun, by simp [Reading.isWhole, hbehind.spot, hbehind.depth, hbehind.phase]⟩
  · intro h
    obtain ⟨reading, hrun, hwhole⟩ := h
    obtain ⟨hspot, hdepth, hphase⟩ : reading.spot ≠ .dot ∧ reading.nesting.depth = 0 ∧
        reading.nesting.phase ≠ .expecting := by
      simpa [Reading.isWhole] using hwhole
    have hstart : Nesting.After ⟨0, .expecting⟩ [] := Before.start
    obtain ⟨before, type, ht, hbefore, htype⟩ := (hstart.foldlM hrun hspot).exists_type hphase
    rw [List.nil_append] at ht
    rw [ht]
    exact hbefore.outermost hdepth htype

instance (t : Text) : Decidable (Spells Dotted .type t) :=
  decidable_of_iff _ spells_type_iff.symm

instance (name : Text) : Decidable (Unreserved name) :=
  inferInstanceAs (Decidable (∀ segment ∈ name.splitOn '.', isKeyword segment = false))

instance (t : Text) : Decidable (IsType t) :=
  decidable_of_iff _ isType_iff.symm

example : IsType "Acme.Base< Acme.Pair<Acme.IThing,Acme.Token> , Acme.Token>" ∧
    ¬ IsType "Acme.Base<Acme.IThing" ∧ ¬ IsType "Acme.Base<,>" := by
  decide +kernel

end ContractProxy.CSharp

import TileRules.Proofs.Decoding

/-!
# Checked — constructors that refuse what they would lose

Leaves and reactions are packed into fields of few bits. The plain constructors mask what does not
fit, and the constructors with checks look at the ranges of their arguments. The ranges are those of
the fields: an argument is refused if and only if it does not come back when the packed fields are
read.

- `Reaction.checked_cases` is everything that the constructor of reactions can answer, as
  `Leaf.checked_cases` is for leaves;
- `RuleTable.decodeReaction_new` reads a reaction back from the table in which it was registered;
- `checked_constructors_accept_what_reads_back` compares the two.
-/

namespace TileRules

open Layout

/-! ## Fields of a reaction -/

theorem wrapValue_eq_self_iff {value : Int} : wrapValue value = value ↔ -16 ≤ value ∧ value ≤ 15 := by
  have h := wrapValue_spec value
  omega

theorem mod_tileTypes_eq_self_iff {id : UInt32} : id % 32 = id ↔ id.toNat < 32 := by
  rw [← UInt32.toNat_inj, UInt32.toNat_mod, show (32 : UInt32).toNat = 32 from rfl]
  omega

namespace Reaction

/-- A result tile and a bias that keep their values make a reaction, and the first of them that does
not is refused. -/
theorem checked_cases (resultTile : UInt32) (bias : Int) :
    (resultTile % 32 = resultTile ∧ wrapValue bias = bias ∧
      checked resultTile bias = .ok (new resultTile bias)) ∨
    (resultTile % 32 ≠ resultTile ∧
      checked resultTile bias = .error (.invalidArgument (.resultTile resultTile))) ∨
    (wrapValue bias ≠ bias ∧
      checked resultTile bias = .error (.invalidArgument (.bias valueMin valueMax bias))) := by
  rw [checked, Ne, Ne, mod_tileTypes_eq_self_iff, wrapValue_eq_self_iff]
  by_cases htile : resultTile.toNat < 32
  · rw [if_neg (Nat.not_le.2 htile)]
    by_cases hbias : -16 ≤ bias ∧ bias ≤ 15
    · have hinside : ¬ (bias < valueMin ∨ bias > valueMax) := by
        rw [valueMin, valueMax]
        omega
      rw [if_neg hinside]
      exact .inl ⟨htile, hbias, rfl⟩
    · have houtside : bias < valueMin ∨ bias > valueMax := by
        rw [valueMin, valueMax]
        omega
      rw [if_pos houtside]
      exact .inr (.inr ⟨hbias, rfl⟩)
  · rw [if_pos (Nat.le_of_not_lt htile)]
    exact .inr (.inl ⟨htile, rfl⟩)

theorem checked_eq_ok_iff {resultTile : UInt32} {bias : Int} {r : Reaction} :
    checked resultTile bias = .ok r ↔
      (resultTile % 32 = resultTile ∧ wrapValue bias = bias) ∧ r = new resultTile bias := by
  rcases checked_cases resultTile bias with ⟨htile, hbias, hok⟩ | ⟨htile, herror⟩ | ⟨hbias, herror⟩
  · rw [hok, Except.ok.injEq]
    exact ⟨fun h => ⟨⟨htile, hbias⟩, h.symm⟩, fun h => h.2.symm⟩
  · rw [herror]
    exact ⟨(nomatch ·), fun h => absurd h.1.1 htile⟩
  · rw [herror]
    exact ⟨(nomatch ·), fun h => absurd h.1.2 hbias⟩

end Reaction

/-- A reaction without conditions is read back from its slot, whatever is registered later. -/
theorem RuleTable.decodeReaction_new {t next : RuleTable} {id resultTile : UInt32} {bias : Int}
    (h : t.addReaction id (Reaction.new resultTile bias) = .ok next)
    (further : List (UInt32 × Reaction)) :
    (attempts register next further).decodeReaction id (t.reactionCount id) =
      .ok (ReactionSummary.ofConditions id (t.reactionCount id) resultTile bias []) := by
  have hblock := (Reaction.carries_new resultTile bias).ofBlock
    (fun _ h => absurd h List.not_mem_nil) id (t.reactionCount id)
  rw [decodeReaction_of_block (block_of_stored h further), hblock]

/-! ## What is refused -/

/-- A constructor with checks makes what the plain constructor makes, and makes it if and only if
the parts read back as they were given; all else is an invalid argument. A leaf reads its parts back
itself, and a reaction from any table in which it is registered. -/
theorem checked_constructors_accept_what_reads_back :
    (∀ tile direction distance : UInt32,
      (∀ l, Leaf.checked tile direction distance = .ok l ↔
        Leaf.ReadsBack tile direction distance ∧ l = Leaf.ofParts tile direction distance) ∧
      ∀ e, Leaf.checked tile direction distance = .error e → ∃ fault, e = .invalidArgument fault) ∧
    ∀ (resultTile : UInt32) (bias : Int),
      (∀ (t next : RuleTable) (id : UInt32),
        t.addReaction id (Reaction.new resultTile bias) = .ok next →
        ∀ further : List (UInt32 × Reaction), ∃ s,
          (attempts RuleTable.register next further).decodeReaction id (t.reactionCount id) = .ok s ∧
          ∀ r, Reaction.checked resultTile bias = .ok r ↔
            (s.resultTile = resultTile ∧ s.bias = bias) ∧ r = Reaction.new resultTile bias) ∧
      ∀ e, Reaction.checked resultTile bias = .error e → ∃ fault, e = .invalidArgument fault := by
  constructor
  · intro tile direction distance
    refine ⟨fun l => Leaf.checked_eq_ok_iff, fun e he => ?_⟩
    rcases Leaf.checked_cases tile direction distance with
      ⟨_, hok⟩ | ⟨_, herror⟩ | ⟨_, herror⟩ | ⟨_, herror⟩
    · cases hok.symm.trans he
    · exact ⟨_, Except.error.inj (he.symm.trans herror)⟩
    · exact ⟨_, Except.error.inj (he.symm.trans herror)⟩
    · exact ⟨_, Except.error.inj (he.symm.trans herror)⟩
  · intro resultTile bias
    constructor
    · intro t next id hstored further
      exact ⟨_, RuleTable.decodeReaction_new hstored further, fun r => Reaction.checked_eq_ok_iff⟩
    · intro e he
      rcases Reaction.checked_cases resultTile bias with ⟨_, _, hok⟩ | ⟨_, herror⟩ | ⟨_, herror⟩
      · cases hok.symm.trans he
      · exact ⟨_, Except.error.inj (he.symm.trans herror)⟩
      · exact ⟨_, Except.error.inj (he.symm.trans herror)⟩

/-- A result tile and a bias that are both just outside of their fields. -/
theorem lossy_reaction_is_refused :
    ∃ next, RuleTable.empty.addReaction 3 (Reaction.new 32 16) = .ok next ∧
      ∃ s, next.decodeReaction 3 0 = .ok s ∧ s.resultTile = 0 ∧ s.bias = -16 ∧
        ∀ r, Reaction.checked 32 16 ≠ .ok r := by
  have hfree : RuleTable.empty.count 3 < 8 := by decide
  have hstored : RuleTable.empty.addReaction 3 (Reaction.new 32 16) = _ :=
    RuleTable.addReaction_of_free rfl hfree
  obtain ⟨s, hs, hchecked⟩ :=
    (checked_constructors_accept_what_reads_back.2 32 16).1 _ _ 3 hstored []
  have hdecode := RuleTable.decodeReaction_new hstored []
  have hsame := Except.ok.inj (hs.symm.trans hdecode)
  have htile : s.resultTile = 0 := by
    rw [hsame]
    rfl
  refine ⟨_, hstored, s, hs, htile, ?_, ?_⟩
  · rw [hsame]
    rfl
  · intro r hr
    rw [htile] at hchecked
    exact absurd ((hchecked r).1 hr).1.1 (by decide)

end TileRules

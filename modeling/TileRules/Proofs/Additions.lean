import TileRules.Proofs.Decoding
import TileRules.Proofs.Depth
import TileRules.Proofs.InPlace

/-!
# Additions — when a condition is refused, and what its row holds

Conditions are offered to a reaction one after another, under either depth policy. A reaction
answers the next offer by two facts: how many conditions it has taken so far, and how deep the tree
is where depth is checked. A refused offer changes nothing, and a taken one fills the next row.

- `Reaction.Carries.offer_eq` is the answer to one offer, and `Reaction.Carries.accepted_eq_self`
  says which runs meet no refusal;
- `Reaction.offerInPlace` writes over one reaction, and `Reaction.offerInPlace_does` says that it
  does the same;
- `Reaction.Carries.getElem_rows` is a row of the block, and `raised_and_mask` separates the header
  of its condition from the bits of the reaction below it;
- `Draft.reaction_lenient`: a run without refusals does not depend on the policies;
- `blocks_hold_accepted_conditions` puts them together.
-/

namespace TileRules

open Layout

/-! ## One offer -/

namespace Reaction

variable {r : Reaction} {resultTile : UInt32} {bias : Int} {list : List Addition}

/-- A full reaction refuses every condition, and any other one only those that are too deep. -/
theorem Carries.offer_eq (h : r.Carries resultTile bias list) (a : Addition) :
    r.offer a =
      if list.length = 16 then .error (.capacityExceeded .conditions)
      else if a.policy = .reject ∧ 3 < a.tree.depth then
        .error (.treeTooDeep (a.tree.operatorsAt 3))
      else .ok (attempt Reaction.offer r a) := by
  have hcount := h.count
  have hroom := h.length_le
  -- Room is tested before depth, so a full reaction never looks at the tree.
  rcases r.offer_cases a with
    ⟨hfull, hstep⟩ | ⟨hfree, hpolicy, hlost, hstep⟩ | ⟨hfree, hkept, hstep⟩
  · have hlength : list.length = 16 := by omega
    rw [hstep, if_pos hlength]
  · have hlength : ¬ list.length = 16 := by omega
    rw [hstep, if_neg hlength, if_pos ⟨hpolicy, Flat.truncated_pos_iff.1 hlost⟩,
      Flat.truncated_ofTree]
  · have hlength : ¬ list.length = 16 := by omega
    rw [Flat.truncated_pos_iff] at hkept
    rw [hstep, if_neg hlength, if_neg hkept, attempt_of_ok hstep]

/-- Where depth is not checked, a condition that can be taken is taken in the same way. -/
theorem offer_lenient {next : Reaction} {a : Addition} (h : r.offer a = .ok next) :
    r.offer { a with policy := .truncate } = .ok next := by
  rcases r.offer_cases a with ⟨_, hfail⟩ | ⟨_, _, _, hfail⟩ | ⟨free, _, htaken⟩
  · rw [hfail] at h
    cases h
  · rw [hfail] at h
    cases h
  · rw [← h, htaken, offer, addConditionWith, dif_pos free]
    rfl

/-- Nothing is refused while there is room and no tree is too deep for its policy. -/
theorem Carries.accepted_eq_self (h : r.Carries resultTile bias list) {run : List Addition}
    (hroom : list.length + run.length ≤ 16)
    (hkept : ∀ a ∈ run, ¬ (a.policy = .reject ∧ 3 < a.tree.depth)) :
    accepted Reaction.offer r run = run := by
  induction run generalizing r list with
  | nil =>
      rfl
  | cons a run ih =>
      rw [List.length_cons] at hroom
      obtain ⟨ha, hrest⟩ := List.forall_mem_cons.1 hkept
      have hfree : ¬ list.length = 16 := by omega
      have hstep := h.offer_eq a
      rw [if_neg hfree, if_neg ha] at hstep
      -- The condition takes its place in the list, and leaves room for the others.
      have hnext : (list ++ [a]).length + run.length ≤ 16 := by
        rw [List.length_append, List.length_singleton]
        omega
      rw [accepted_cons_of_ok hstep, ih (h.offer hstep) hnext hrest]

/-! ## In place -/

/-- Changes row `index` of the block. -/
def changeRow (index : Nat) (change : Reaction → Row → Row) : InPlace Reaction Unit :=
  if h : index < 16 then
    modify fun r => { r with block := ⟨r.block.rows.set index (change r r.block.rows[index]) h⟩ }
  else
    throw .outOfBounds

/-- Writes a condition row: its words, then its header ten bits higher, and in row 0 the bits of the
reaction below the header. -/
def writeRow (index : Nat) (row : Row) : InPlace Reaction Unit := do
  changeRow index fun _ _ => row
  changeRow index fun _ written => { written with header := row.header <<< headerShift }
  if index = 0 then
    changeRow index fun r written =>
      { written with header := written.header ||| reactionBits r.resultTile r.bias }

/-- Adds a condition in place: its row goes into the block first, and then it is counted. -/
def offerInPlace (a : Addition) : InPlace Reaction Unit := do
  let count := (← get).conditionCount
  if count < 16 then
    let row ← InPlace.ofExcept (flattenWith a.tree a.value a.policy)
    writeRow count row
    modify fun r => { r with conditionCount := r.conditionCount + 1 }
  else
    throw (.refused (.capacityExceeded .conditions))

theorem run_changeRow {index : Nat} (h : index < 16) (change : Reaction → Row → Row)
    (r : Reaction) :
    (changeRow index change).run r =
      .ok () { r with block := ⟨r.block.rows.set index (change r r.block.rows[index]) h⟩ } := by
  rw [changeRow, dif_pos h]
  rfl

/-- The three writes to a row leave what one write leaves. -/
theorem run_writeRow {index : Nat} (h : index < 16) (row : Row) (r : Reaction) :
    (writeRow index row).run r =
      .ok () { r with block := ⟨r.block.rows.set index (r.placeRow index row) h⟩ } := by
  rw [writeRow, EStateM.run_bind, run_changeRow h]
  dsimp only
  rw [EStateM.run_bind, run_changeRow h]
  by_cases hfirst : index = 0
  · simp only [if_pos hfirst, run_changeRow h, placeRow, withReactionBits, Vector.set_set,
      Vector.getElem_set_self]
  · simp only [if_neg hfirst, EStateM.run_pure, placeRow, withReactionBits, Vector.set_set,
      Vector.getElem_set_self]

/-- Nothing is written before the last check: room is tested first, and then the tree. -/
theorem offerInPlace_does (a : Addition) : InPlace.Does (offerInPlace a) fun r => r.offer a := by
  intro r
  dsimp only [offer]
  rw [offerInPlace, EStateM.run_bind, EStateM.run_get]
  dsimp only
  by_cases free : r.conditionCount < 16
  · rw [addConditionWith, dif_pos free, if_pos free]
    cases hrow : flattenWith a.tree a.value a.policy with
    | error e =>
        rfl
    | ok row =>
        rw [InPlace.ofExcept, pure_bind, EStateM.run_bind, run_writeRow free]
        rfl
  · rw [addConditionWith, dif_neg free, if_neg free]
    rfl

/-! ## Rows -/

/-- The bits of the reaction below the header at an index: only row 0 has any. -/
def bitsBelow (resultTile : UInt32) (bias : Int) (index : Nat) : UInt32 :=
  if index = 0 then (storeValue bias <<< 5) ||| (resultTile &&& tileMask) else 0

theorem bitsBelow_lt (resultTile : UInt32) (bias : Int) (index : Nat) :
    (bitsBelow resultTile bias index).toNat < 2 ^ 10 := by
  rw [bitsBelow]
  split
  · exact reactionBits_lt resultTile bias
  · decide

theorem Carries.getElem_rows (h : r.Carries resultTile bias list) {i : Nat} (hi : i < 16) :
    r.block.rows[i] =
      { rowBefore list i with
        header :=
          ((rowBefore list i).header <<< headerShift) ||| bitsBelow resultTile bias i } := by
  rw [h.rows hi, ← raised_rowBefore, withReactionBits_raised]
  rfl

end Reaction

/-- The low ten bits of a header in a block are those that were put below it. -/
theorem raised_and_mask {header bits : UInt32} (hheader : header.toNat < 2 ^ 19)
    (hbits : bits.toNat < 2 ^ 10) : ((header <<< headerShift) ||| bits) &&& 1023 = bits := by
  apply UInt32.toNat_inj.1
  rw [toNat_and_mask 10 rfl, toNat_raised hheader hbits]
  omega

/-! ## Runs -/

namespace Draft

/-- The draft with one more offer. -/
def offer (d : Draft) (a : Addition) : Draft :=
  { d with additions := d.additions ++ [a] }

theorem reaction_offer (d : Draft) (a : Addition) :
    (d.offer a).reaction = attempt Reaction.offer d.reaction a :=
  attempts_concat d.additions a

theorem offer_eq (d : Draft) (a : Addition) :
    d.reaction.offer a =
      if d.conditions.length = 16 then .error (.capacityExceeded .conditions)
      else if a.policy = .reject ∧ 3 < a.tree.depth then
        .error (.treeTooDeep (a.tree.operatorsAt 3))
      else .ok (d.offer a).reaction := by
  rw [reaction_offer]
  exact d.carries.offer_eq a

theorem run_offerInPlace (d : Draft) (a : Addition) :
    (Reaction.offerInPlace a).run d.reaction =
      if d.conditions.length = 16 then
        .error (.refused (.capacityExceeded .conditions)) d.reaction
      else if a.policy = .reject ∧ 3 < a.tree.depth then
        .error (.refused (.treeTooDeep (a.tree.operatorsAt 3))) d.reaction
      else .ok () (d.offer a).reaction := by
  rw [(Reaction.offerInPlace_does a).run_eq (d.offer_eq a)]
  split
  · rfl
  · split <;> rfl

/-- A refused offer leaves the reaction as it was. -/
theorem reaction_of_refused {d : Draft} {a : Addition}
    (h : d.conditions.length = 16 ∨ a.policy = .reject ∧ 3 < a.tree.depth) :
    (d.offer a).reaction = d.reaction := by
  have hstep := d.offer_eq a
  rw [reaction_offer]
  by_cases hfull : d.conditions.length = 16
  · rw [if_pos hfull] at hstep
    exact attempt_of_error hstep
  · have hdeep := h.resolve_left hfull
    rw [if_neg hfull, if_pos hdeep] at hstep
    exact attempt_of_error hstep

/-- The same offers without a check of depth. -/
def lenient (d : Draft) : Draft :=
  { d with additions := d.additions.map fun a => { a with policy := .truncate } }

theorem reaction_lenient {d : Draft} (h : d.conditions = d.additions) :
    d.lenient.reaction = d.reaction :=
  attempts_map_of_accepted (fun _ _ _ hstep => Reaction.offer_lenient hstep) h

end Draft

/-- The block of a reaction holds the conditions that were taken, row by row, and an offer is taken
unless the reaction is full or the tree is too deep for its policy.

The first part is about the next offer behind any run: made in place, it leaves the reaction as it
was if it is refused. The second part is about the two other ways to make an offer, and the third
one says that a run in place leaves the reaction of the run. The middle parts are about its block,
and the last part says that the policies only count where they refuse something. -/
theorem blocks_hold_accepted_conditions (d : Draft) :
    (∀ a,
      d.reaction.addConditionWith a.tree a.value a.policy =
          (if d.conditions.length = 16 then .error (.capacityExceeded .conditions)
          else if a.policy = .reject ∧ 3 < a.tree.depth then
            .error (.treeTooDeep (a.tree.operatorsAt 3))
          else .ok (d.offer a).reaction) ∧
        (Reaction.offerInPlace a).run d.reaction =
          (if d.conditions.length = 16 then
            .error (.refused (.capacityExceeded .conditions)) d.reaction
          else if a.policy = .reject ∧ 3 < a.tree.depth then
            .error (.refused (.treeTooDeep (a.tree.operatorsAt 3))) d.reaction
          else .ok () (d.offer a).reaction) ∧
        ((d.conditions.length = 16 ∨ a.policy = .reject ∧ 3 < a.tree.depth) →
          (d.offer a).reaction = d.reaction)) ∧
      (∀ tree value,
        d.reaction.addCondition tree value = d.reaction.addConditionWith tree value .truncate ∧
          d.reaction.addConditionStrict tree value =
            d.reaction.addConditionWith tree value .reject) ∧
      (InPlace.inTurn Reaction.offerInPlace d.additions).run
          (Reaction.new d.resultTile d.bias) = .ok () d.reaction ∧
      d.reaction.conditionCount = d.conditions.length ∧ d.conditions.length ≤ 16 ∧
      (∀ (i : Nat) (hi : i < 16) (hused : i < d.conditions.length),
        d.reaction.block.rows[i] =
            { flatten d.conditions[i].tree d.conditions[i].value with
              header :=
                ((flatten d.conditions[i].tree d.conditions[i].value).header <<< 10) |||
                  Reaction.bitsBelow d.resultTile d.bias i } ∧
          d.reaction.block.rows[i].header >>> 10 =
            (flatten d.conditions[i].tree d.conditions[i].value).header) ∧
      (∀ (i : Nat) (hi : i < 16), d.conditions.length ≤ i →
        d.reaction.block.rows[i] =
          { unsetRow with header := unsetHeader ||| Reaction.bitsBelow d.resultTile d.bias i }) ∧
      (∀ (i : Nat) (hi : i < 16),
        d.reaction.block.rows[i].header &&& 1023 = Reaction.bitsBelow d.resultTile d.bias i) ∧
      (d.conditions = d.additions → d.lenient.reaction = d.reaction) := by
  have hcarries := d.carries
  have hrow : ∀ {i : Nat} (hi : i < 16), d.reaction.block.rows[i] = _ :=
    fun hi => hcarries.getElem_rows hi
  refine ⟨fun a => ⟨d.offer_eq a, d.run_offerInPlace a, Draft.reaction_of_refused⟩,
    fun _ _ => ⟨rfl, rfl⟩, InPlace.run_inTurn Reaction.offerInPlace_does d.start d.additions,
    hcarries.count, hcarries.length_le, ?_, ?_, ?_, Draft.reaction_lenient⟩
  · -- A row in use: the shift makes room for ten bits, and nothing is pushed out at the top.
    intro i hi hused
    have hbits := Reaction.bitsBelow_lt d.resultTile d.bias i
    have hheader := header_rowBefore_lt d.conditions i
    rw [hrow hi]
    rw [rowBefore, inSlot_of_lt _ _ hused] at hheader ⊢
    exact ⟨rfl, raised_shiftRight hheader hbits⟩
  · -- A row behind those in use still stands as it was made.
    intro i hi hfree
    rw [hrow hi, rowBefore, inSlot_of_ge _ _ hfree]
    rfl
  · intro i hi
    rw [hrow hi]
    exact raised_and_mask (header_rowBefore_lt d.conditions i)
      (Reaction.bitsBelow_lt d.resultTile d.bias i)

end TileRules

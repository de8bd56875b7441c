import TileRules.Summary.Text
import TileRules.Proofs.Hidden
import TileRules.Proofs.Repacking
import TileRules.Proofs.Text.Separated

/-!
# Inspection — the text of a reaction tells it apart from others

A reaction is written as a line for itself and a line for every condition that can match. Numbers,
names of tiles and signs of modes do not contain the characters between them, and no two tiles,
directions or modes have the same name. So two summaries with the same text say the same, as far as
they are written at all.

- `describeTile_inj`, `signedText_inj` and `Leaf.text_inj` are the parts, and
  `ConditionSummary.text_inj` and `ReactionSummary.heading_inj` the lines;
- `ReactionSummary.lines_text` finds the lines again in the text;
- `inspection_text_tells_reactions_apart` puts them together for summaries of decoded slots.
-/

namespace TileRules

open Text

/-! ## Numbers -/

/-- A character of numbers without a sign, of names and of the mark of a tile without a name. -/
def isWordChar (c : Char) : Bool :=
  c.isAlphanum || c == '#'

theorem lacks_natText_of_not_word {c : Char} (hc : isWordChar c = false) (n : Nat) :
    Lacks c (toString n) := by
  refine lacks_natText ?_ n
  rw [isWordChar, Bool.or_eq_false_iff, Char.isAlphanum, Bool.or_eq_false_iff] at hc
  exact hc.1.2

/-- The sign of an integer, which is written in any case. -/
def signOf (value : Int) : String :=
  if value < 0 then "-" else "+"

theorem signedText_eq (value : Int) : signedText value = signOf value ++ toString value.natAbs := by
  rw [signedText, signOf]
  split
  · rename_i hneg
    have hpos : ¬ 0 ≤ value := by omega
    have habs : (-value).toNat = value.natAbs := by omega
    show value.repr = _
    rw [Int.repr_eq_if, if_neg hpos, habs]
    rfl
  · rename_i hpos
    have hneg : 0 ≤ value := by omega
    have habs : value.toNat = value.natAbs := by omega
    show "+" ++ value.repr = _
    rw [Int.repr_eq_if, if_pos hneg, habs]
    rfl

theorem signedText_inj {v w : Int} (h : signedText v = signedText w) : v = w := by
  rw [signedText_eq, signedText_eq] at h
  have hsigns : ∀ n m : Nat, "-" ++ toString n ≠ "+" ++ toString m := by
    intro n m heq
    have hplus : Lacks '+' ("-" ++ toString n) :=
      lacks_append.2 ⟨by decide, lacks_natText (by decide) n⟩
    rw [heq, lacks_append] at hplus
    exact absurd hplus.1 (by decide)
  by_cases hv : v < 0
  · by_cases hw : w < 0
    · rw [signOf, signOf, if_pos hv, if_pos hw, String.append_right_inj] at h
      have habs := natText_inj h
      omega
    · rw [signOf, signOf, if_pos hv, if_neg hw] at h
      exact absurd h (hsigns _ _)
  · by_cases hw : w < 0
    · rw [signOf, signOf, if_neg hv, if_pos hw] at h
      exact absurd h.symm (hsigns _ _)
    · rw [signOf, signOf, if_neg hv, if_neg hw, String.append_right_inj] at h
      have habs := natText_inj h
      omega

theorem lacks_signedText {c : Char} (hc : c.isDigit = false) (hplus : c ≠ '+') (hminus : c ≠ '-')
    (value : Int) : Lacks c (signedText value) := by
  rw [signedText_eq, lacks_append]
  refine ⟨?_, lacks_natText hc _⟩
  rw [signOf]
  split
  · exact fun h => hminus (List.mem_singleton.1 h)
  · exact fun h => hplus (List.mem_singleton.1 h)

/-! ## Padding -/

theorem toList_padLeft (width : Nat) (text : String) :
    (padLeft width text).toList = List.replicate (width - text.length) ' ' ++ text.toList := by
  have hblanks : ∀ n : Nat, ("".pushn ' ' n).toList = List.replicate n ' ' := by
    intro n
    rw [String.pushn_eq_repeat_push]
    induction n with
    | zero => rfl
    | succ n ih => rw [Nat.repeat, String.toList_push, ih, List.replicate_succ']
  rw [padLeft, String.toList_append, hblanks]

/-- Texts that do not start with a blank are found behind the blanks. -/
theorem padLeft_inj {width : Nat} {a b : String} (ha : Lacks ' ' a) (hb : Lacks ' ' b)
    (h : padLeft width a = padLeft width b) : a = b := by
  have hdrop : ∀ text : String, Lacks ' ' text →
      (padLeft width text).toList.dropWhile (· == ' ') = text.toList := by
    intro text hlacks
    rw [toList_padLeft, List.dropWhile_append_of_pos]
    · cases htext : text.toList with
      | nil => rfl
      | cons c chars =>
          have hc : c ≠ ' ' := fun heq => hlacks (by rw [htext, heq]; exact List.mem_cons_self)
          rw [List.dropWhile_cons_of_neg (by simpa using hc)]
    · intro c hc
      rw [List.eq_of_mem_replicate hc]
      rfl
  apply String.toList_injective
  rw [← hdrop a ha, ← hdrop b hb, h]

theorem lacks_padLeft {c : Char} (hc : c ≠ ' ') {text : String} (h : Lacks c text) (width : Nat) :
    Lacks c (padLeft width text) := by
  rw [Lacks, toList_padLeft]
  exact List.not_mem_append (fun hmem => hc (List.eq_of_mem_replicate hmem)) h

/-! ## Names -/

theorem Tile.id_of_ofId? {id : UInt32} {tile : Tile} (h : ofId? id = some tile) : tile.id = id := by
  rw [ofId?, List.find?_eq_some_iff_append] at h
  exact beq_iff_eq.1 h.1

theorem Tile.name_inj {tile other : Tile} (h : tile.name = other.name) : tile = other := by
  revert h
  cases tile <;> cases other <;> decide

theorem Direction.name_inj {d e : Direction} (h : d.name = e.name) : d = e := by
  revert h
  cases d <;> cases e <;> decide

theorem Mode.sign_inj {m n : Mode} (h : m.sign = n.sign) : m = n := by
  revert h
  cases m <;> cases n <;> decide

theorem Direction.lacks_name {c : Char} (hc : isWordChar c = false) (d : Direction) :
    Lacks c d.name := by
  have hwords : d.name.toList.all isWordChar = true := by
    cases d <;> rfl
  intro hmem
  rw [List.all_eq_true.1 hwords c hmem] at hc
  cases hc

theorem describeTile_cases (id : UInt32) :
    (∃ tile : Tile, tile.id = id ∧ describeTile id = tile.name) ∨
      describeTile id = "#" ++ toString id.toNat := by
  rw [describeTile]
  cases h : Tile.ofId? id with
  | none =>
      exact .inr rfl
  | some tile =>
      exact .inl ⟨tile, Tile.id_of_ofId? h, rfl⟩

theorem lacks_describeTile {c : Char} (hc : isWordChar c = false) (id : UInt32) :
    Lacks c (describeTile id) := by
  rcases describeTile_cases id with ⟨tile, _, hname⟩ | hnumber
  · have hwords : tile.name.toList.all isWordChar = true := by
      cases tile <;> rfl
    rw [hname]
    intro hmem
    rw [List.all_eq_true.1 hwords c hmem] at hc
    cases hc
  · rw [hnumber, lacks_append]
    refine ⟨fun hmem => ?_, lacks_natText_of_not_word hc _⟩
    rw [List.mem_singleton.1 hmem] at hc
    cases hc

/-- No name of a tile starts with the mark of the tiles that have none. -/
theorem describeTile_inj {id other : UInt32} (h : describeTile id = describeTile other) :
    id = other := by
  have hnames : ∀ (tile : Tile) (n : Nat), tile.name ≠ "#" ++ toString n := by
    intro tile n heq
    have hmark : Lacks '#' tile.name := by
      cases tile <;> decide
    rw [heq, lacks_append] at hmark
    exact absurd hmark.1 (by decide)
  rcases describeTile_cases id with ⟨tile, hid, hname⟩ | hnumber
  · rcases describeTile_cases other with ⟨tile', hid', hname'⟩ | hnumber'
    · rw [← hid, ← hid', Tile.name_inj (hname.symm.trans (h.trans hname'))]
    · exact absurd (hname.symm.trans (h.trans hnumber')) (hnames _ _)
  · rcases describeTile_cases other with ⟨tile', hid', hname'⟩ | hnumber'
    · exact absurd (hname'.symm.trans (h.symm.trans hnumber)) (hnames _ _)
    · have hnumbers := hnumber.symm.trans (h.trans hnumber')
      rw [String.append_right_inj] at hnumbers
      exact UInt32.toNat_inj.1 (natText_inj hnumbers)

/-! ## Leaves -/

namespace Leaf

theorem text_of_ne {l : Leaf} (h : l ≠ never) :
    l.text = describeTile l.tile ++
      ("@" ++ (l.direction.name ++ ("+" ++ toString l.distance.toNat))) := by
  rw [text, if_neg h]
  simp only [String.append_assoc]
  rfl

theorem lacks_text {c : Char} (hc : isWordChar c = false) (hat : c ≠ '@') (hplus : c ≠ '+')
    (l : Leaf) : Lacks c l.text := by
  by_cases hnever : l = never
  · have hwords : never.text.toList.all isWordChar = true := rfl
    rw [hnever]
    intro hmem
    rw [List.all_eq_true.1 hwords c hmem] at hc
    cases hc
  · simp only [text_of_ne hnever, lacks_append]
    refine ⟨lacks_describeTile hc _, fun h => hat (List.mem_singleton.1 h),
      l.direction.lacks_name hc, fun h => hplus (List.mem_singleton.1 h),
      lacks_natText_of_not_word hc _⟩

/-- Leaves of nine bits are known by their text. -/
theorem text_inj {l m : Leaf} (hl : l.Fits) (hm : m.Fits) (h : l.text = m.text) : l = m := by
  -- Only the leaf that never matches is written without a direction.
  have hnever : ∀ {k : Leaf}, k ≠ never → never.text ≠ k.text := by
    intro k hk heq
    have hat : Lacks '@' never.text := by
      decide
    rw [heq, text_of_ne hk, lacks_append, lacks_append] at hat
    exact absurd hat.2.1 (by decide)
  by_cases hl' : l = never
  · by_cases hm' : m = never
    · rw [hl', hm']
    · rw [hl'] at h
      exact absurd h (hnever hm')
  · by_cases hm' : m = never
    · rw [hm'] at h
      exact absurd h.symm (hnever hl')
    · rw [text_of_ne hl', text_of_ne hm'] at h
      obtain ⟨htile, h⟩ := separated_inj (c := '@') (by decide) (lacks_describeTile (by decide) _)
        (lacks_describeTile (by decide) _) h
      obtain ⟨hdirection, h⟩ := separated_inj (c := '+') (by decide)
        (l.direction.lacks_name (by decide)) (m.direction.lacks_name (by decide)) h
      exact ext_fields hl hm (describeTile_inj htile) (Direction.name_inj hdirection)
        (UInt32.toNat_inj.1 (natText_inj h))

end Leaf

/-! ## Conditions -/

theorem eq_of_map_eq_map {α β : Type} {f : α → β} {xs ys : List α}
    (hinj : ∀ x ∈ xs, ∀ y ∈ ys, f x = f y → x = y) (h : xs.map f = ys.map f) : xs = ys := by
  have hlength : xs.length = ys.length := by
    simpa using congrArg List.length h
  apply List.ext_getElem hlength
  intro i hx hy
  refine hinj _ (List.getElem_mem hx) _ (List.getElem_mem hy) ?_
  have hsame := List.getElem_of_eq h (by simpa using hx)
  rwa [List.getElem_map, List.getElem_map] at hsame

namespace ConditionSummary

/-- The signs of the operators. -/
def signs (c : ConditionSummary) : String :=
  " ".intercalate (c.modes.toList.map Mode.sign)

/-- The texts of the leaves. -/
def leafTexts (c : ConditionSummary) : String :=
  ", ".intercalate (c.leaves.toList.map Leaf.text)

/-- A line with its parts in order. -/
theorem text_eq (c : ConditionSummary) :
    c.text = "  [" ++ (padLeft 2 (toString c.row) ++ ("] value " ++ (padLeft 3 (signedText c.value) ++
      ("  modes " ++ (c.signs ++ ("  leaves " ++ c.leafTexts)))))) := by
  have hmodes : "  modes " = "  " ++ "modes " := rfl
  rw [hmodes]
  simp only [text, signs, leafTexts, String.append_assoc]
  rfl

theorem lacks_signs {c : Char} (hc : ∀ m : Mode, Lacks c m.sign) (hblank : Lacks c " ")
    (s : ConditionSummary) : Lacks c s.signs :=
  Lacks.intercalate hblank (List.forall_mem_map.2 fun m _ => hc m)

/-- All leaves have nine bits. -/
def LeavesFit (c : ConditionSummary) : Prop :=
  ∀ l ∈ c.leaves.toList, l.Fits

theorem signs_inj {c d : ConditionSummary} (h : c.signs = d.signs) : c.modes = d.modes := by
  have hblank : ∀ m : Mode, Lacks ' ' m.sign := by
    intro m
    cases m <;> decide
  have hparts : ∀ s : ConditionSummary, ∀ part ∈ s.modes.toList.map Mode.sign, Lacks ' ' part :=
    fun _ => List.forall_mem_map.2 fun m _ => hblank m
  have hsigns := intercalate_inj (c := ' ') (by decide) (by simp) (hparts c) (hparts d) h
  exact Vector.toList_inj.1 (eq_of_map_eq_map (fun _ _ _ _ => Mode.sign_inj) hsigns)

theorem leafTexts_inj {c d : ConditionSummary} (hc : c.LeavesFit) (hd : d.LeavesFit)
    (h : c.leafTexts = d.leafTexts) : c.leaves = d.leaves := by
  have hparts : ∀ s : ConditionSummary, ∀ part ∈ s.leaves.toList.map Leaf.text, Lacks ',' part :=
    fun _ => List.forall_mem_map.2 fun l _ =>
      l.lacks_text (by decide) (by decide) (by decide)
  have htexts := intercalate_inj (c := ',') (by decide) (by simp) (hparts c) (hparts d) h
  exact Vector.toList_inj.1
    (eq_of_map_eq_map (fun l hl m hm => Leaf.text_inj (hc l hl) (hd m hm)) htexts)

theorem ext_fields {c d : ConditionSummary} (hrow : c.row = d.row) (hvalue : c.value = d.value)
    (hmodes : c.modes = d.modes) (hleaves : c.leaves = d.leaves) : c = d := by
  cases c
  cases d
  congr

/-- Conditions are known by their lines. -/
theorem text_inj {c d : ConditionSummary} (hc : c.LeavesFit) (hd : d.LeavesFit)
    (h : c.text = d.text) : c = d := by
  have hrow : ∀ s : ConditionSummary, Lacks ' ' (toString s.row) :=
    fun s => lacks_natText (by decide) s.row
  have hvalue : ∀ s : ConditionSummary, Lacks ' ' (signedText s.value) :=
    fun s => lacks_signedText (by decide) (by decide) (by decide) s.value
  have hsigns : ∀ s : ConditionSummary, Lacks 'l' s.signs :=
    lacks_signs (fun m => by cases m <;> decide) (by decide)
  rw [text_eq, text_eq, String.append_right_inj] at h
  obtain ⟨hrows, h⟩ := separated_inj (c := ']') (by decide)
    (lacks_padLeft (by decide) (lacks_natText (by decide) _) 2)
    (lacks_padLeft (by decide) (lacks_natText (by decide) _) 2) h
  obtain ⟨hvalues, h⟩ := separated_inj (c := 'm') (by decide)
    (lacks_padLeft (by decide) (lacks_signedText (by decide) (by decide) (by decide) _) 3)
    (lacks_padLeft (by decide) (lacks_signedText (by decide) (by decide) (by decide) _) 3) h
  obtain ⟨hmodes, hleaves⟩ := separated_inj (c := 'l') (by decide) (hsigns c) (hsigns d) h
  have hrow' : c.row = d.row := natText_inj (padLeft_inj (hrow c) (hrow d) hrows)
  have hvalue' : c.value = d.value := signedText_inj (padLeft_inj (hvalue c) (hvalue d) hvalues)
  exact ext_fields hrow' hvalue' (signs_inj hmodes) (leafTexts_inj hc hd hleaves)

theorem lacks_text (c : ConditionSummary) : Lacks '\n' c.text := by
  have hleaves : Lacks '\n' c.leafTexts :=
    Lacks.intercalate (by decide) (List.forall_mem_map.2 fun l _ =>
      l.lacks_text (by decide) (by decide) (by decide))
  simp only [text_eq, lacks_append]
  exact ⟨by decide, lacks_padLeft (by decide) (lacks_natText (by decide) _) 2, by decide,
    lacks_padLeft (by decide) (lacks_signedText (by decide) (by decide) (by decide) _) 3,
    by decide, lacks_signs (fun m => by cases m <;> decide) (by decide) c, by decide, hleaves⟩

end ConditionSummary

/-! ## Reactions -/

namespace ReactionSummary

theorem heading_eq (s : ReactionSummary) :
    s.heading = describeTile s.tile ++ (" slot " ++ (toString s.slot ++ (": -> " ++
      (describeTile s.resultTile ++ (" (bias " ++ (signedText s.bias ++ ")")))))) := by
  have hbias : " (bias " = " " ++ "(bias " := rfl
  rw [hbias]
  simp only [heading, String.append_assoc]
  rfl

/-- What a heading says of a reaction. -/
theorem heading_inj {s r : ReactionSummary} (h : s.heading = r.heading) :
    s.tile = r.tile ∧ s.slot = r.slot ∧ s.resultTile = r.resultTile ∧ s.bias = r.bias := by
  rw [heading_eq, heading_eq] at h
  obtain ⟨htile, h⟩ := separated_inj (c := ' ') (by decide) (lacks_describeTile (by decide) _)
    (lacks_describeTile (by decide) _) h
  obtain ⟨hslot, h⟩ := separated_inj (c := ':') (by decide) (lacks_natText (by decide) _)
    (lacks_natText (by decide) _) h
  obtain ⟨hresult, h⟩ := separated_inj (c := ' ') (by decide) (lacks_describeTile (by decide) _)
    (lacks_describeTile (by decide) _) h
  rw [String.append_left_inj] at h
  exact ⟨describeTile_inj htile, natText_inj hslot, describeTile_inj hresult, signedText_inj h⟩

theorem lacks_heading (s : ReactionSummary) : Lacks '\n' s.heading := by
  simp only [heading_eq, lacks_append]
  exact ⟨lacks_describeTile (by decide) _, by decide, lacks_natText (by decide) _, by decide,
    lacks_describeTile (by decide) _, by decide,
    lacks_signedText (by decide) (by decide) (by decide) _, by decide⟩

/-- The lines of a text are the heading and a line for every condition that can match. -/
theorem lines_text (s : ReactionSummary) :
    lines s.text = s.heading :: s.activeConditions.map ConditionSummary.text := by
  refine lines_join fun line hline => ?_
  rcases List.mem_cons.1 hline with rfl | hcondition
  · exact s.lacks_heading
  · obtain ⟨c, -, rfl⟩ := List.mem_map.1 hcondition
    exact c.lacks_text

theorem leavesFit_ofBlock (tile : UInt32) (slot : Nat) (b : Block) :
    ∀ c ∈ (ofBlock tile slot b).conditions, c.LeavesFit := by
  intro c hc l hl
  obtain ⟨⟨row, index⟩, -, rfl⟩ := List.mem_map.1 hc
  obtain ⟨j, hj, rfl⟩ := Vector.mem_iff_getElem.1 (Vector.mem_toList_iff.1 hl)
  exact row.fits_leaves hj

end ReactionSummary

theorem RuleTable.eq_ofBlock_of_decodeReaction {t : RuleTable} {tile : UInt32} {slot : Nat}
    {s : ReactionSummary} (h : t.decodeReaction tile slot = .ok s) :
    ∃ b, s = ReactionSummary.ofBlock tile slot b := by
  rw [decodeReaction] at h
  cases hblock : t.block tile slot with
  | error e =>
      rw [hblock] at h
      cases h
  | ok b =>
      rw [hblock] at h
      exact ⟨b, (Except.ok.inj h).symm⟩

/-- Two reactions of any tables have the same inspection text only if they have the same tile, slot,
result and bias, and the same conditions that can match. The text has a line for itself and one for
each of these conditions. -/
theorem inspection_text_tells_reactions_apart :
    (∀ (t u : RuleTable) (tile other : UInt32) (slot place : Nat) (s r : ReactionSummary),
      t.decodeReaction tile slot = .ok s → u.decodeReaction other place = .ok r →
        (s.text = r.text ↔
          s.tile = r.tile ∧ s.slot = r.slot ∧ s.resultTile = r.resultTile ∧ s.bias = r.bias ∧
            s.activeConditions = r.activeConditions)) ∧
      ∀ (t : RuleTable) (tile : UInt32) (slot : Nat) (s : ReactionSummary),
        t.decodeReaction tile slot = .ok s →
          (lines s.text).length = s.activeConditions.length + 1 := by
  constructor
  · intro t u tile other slot place s r hs hr
    constructor
    · intro htext
      have hlines := congrArg lines htext
      rw [ReactionSummary.lines_text, ReactionSummary.lines_text, List.cons.injEq] at hlines
      obtain ⟨hheading, hconditions⟩ := hlines
      obtain ⟨htile, hslot, hresult, hbias⟩ := ReactionSummary.heading_inj hheading
      refine ⟨htile, hslot, hresult, hbias, eq_of_map_eq_map (fun c hc d hd => ?_) hconditions⟩
      obtain ⟨b, rfl⟩ := RuleTable.eq_ofBlock_of_decodeReaction hs
      obtain ⟨b', rfl⟩ := RuleTable.eq_ofBlock_of_decodeReaction hr
      exact ConditionSummary.text_inj
        (ReactionSummary.leavesFit_ofBlock _ _ _ c (List.mem_filter.1 hc).1)
        (ReactionSummary.leavesFit_ofBlock _ _ _ d (List.mem_filter.1 hd).1)
    · rintro ⟨htile, hslot, hresult, hbias, hconditions⟩
      rw [ReactionSummary.text, ReactionSummary.text, ReactionSummary.heading_eq,
        ReactionSummary.heading_eq, htile, hslot, hresult, hbias, hconditions]
  · intro t tile slot s _
    rw [ReactionSummary.lines_text, List.length_cons, List.length_map]

/-- A reaction that reads one neighbour. -/
def besideWater (value : Int) : Draft :=
  { resultTile := 5
    bias := -3
    additions := [⟨.tileAt 1 0 1, value, .reject⟩] }

theorem besideWater_texts_differ :
    ∃ t u s r, RuleTable.empty.addReaction 4 (besideWater 4).reaction = .ok t ∧
      RuleTable.empty.addReaction 4 (besideWater 5).reaction = .ok u ∧
        t.decodeReaction 4 0 = .ok s ∧ u.decodeReaction 4 0 = .ok r ∧
          s.text ≠ r.text ∧ (lines s.text).length = 2 := by
  obtain ⟨t, ht, hs⟩ := (besideWater 4).decodeReaction_first (by decide) 4 4 rfl
  obtain ⟨u, hu, hr⟩ := (besideWater 5).decodeReaction_first (by decide) 4 4 rfl
  refine ⟨t, u, _, _, ht, hu, hs, hr, fun htext => ?_, ?_⟩
  · have hsame := (inspection_text_tells_reactions_apart.1 _ _ _ _ _ _ _ _ hs hr).1 htext
    exact absurd hsame.2.2.2.2 (by decide +kernel)
  · rw [inspection_text_tells_reactions_apart.2 _ _ _ _ hs]
    decide +kernel

end TileRules

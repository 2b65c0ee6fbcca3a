import OperandStack.Proofs.Stack.Meaning
import OperandStack.Proofs.Word.Integer

/-!
# Runs on relabelled words

The stack moves words about and never looks into them. If every word that it holds or is given is
replaced by another one, by whatever rule, then a run shows the same with the words so replaced: the
same refusals with the same reports, and the same places, counts and depths. The rule may well give
two words the same label, so no operation can tell words apart or treat one of them in a way of its
own. The digest alone is left out, since it is made of the words' bytes.
-/

set_option autoImplicit false

namespace OperandStack

variable {Sink : Type}

def TraceCall.relabel (label : Word → Word) (call : TraceCall Sink) : TraceCall Sink :=
  { call with word := label call.word }

theorem Tracer.notify_relabel (tracer : Tracer Sink) (label : Word → Word) (word : Word)
    (depth : Nat) :
    tracer.notify (label word) depth = (tracer.notify word depth).map (.relabel label) := by
  rw [notify_eq_map_leaves, notify_eq_map_leaves, List.map_map]
  rfl

namespace Stack

/-! ## Relabelled operations and answers -/

/-- The push of the label, for a push in any form; other operations hold no word. -/
def Op.relabel (label : Word → Word) (op : Op) : Op :=
  match op.pushed? with
  | some word => .push (label word)
  | none => op

def Reply.relabel (label : Word → Word) : Reply → Reply
  | .done => .done
  | .word single => .word (label single)
  | .number value => .number (label (Word.ofUInt256 value)).toUInt256
  | .found single => .found (single.map label)
  | .words several => .words (several.map label)
  | .digest hash => .digest hash
  | .count total => .count total

def Meaning.relabel (label : Word → Word) (meaning : Meaning) : Meaning :=
  ⟨meaning.items.map label, meaning.result.map (.relabel label), meaning.reported.map label⟩

variable (label : Word → Word)

private theorem exchangeLast_map (items : List Word) (distance : Nat) :
    exchangeLast (items.map label) distance = (exchangeLast items distance).map label := by
  unfold exchangeLast
  simp only [List.length_map, List.getElem?_map]
  cases items[items.length - 1]? with
  | none => rfl
  | some last =>
      cases items[items.length - 1 - distance]? with
      | none => rfl
      | some other => simp only [Option.map_some, List.map_set]

private theorem push_relabel (items : List Word) (word : Word) :
    Meaning.push (items.map label) (label word) = (Meaning.push items word).relabel label := by
  unfold Meaning.push
  rw [List.length_map]
  split
  · simp only [Meaning.relabel, List.map_append, List.map_cons, List.map_nil, Option.map_some]
    rfl
  · rfl

private theorem pop_relabel {reply : Word → Reply}
    (labelled : ∀ word, reply (label word) = (reply word).relabel label) (items : List Word) :
    Meaning.pop (items.map label) reply = (Meaning.pop items reply).relabel label := by
  unfold Meaning.pop
  rw [List.getLast?_map]
  cases items.getLast? with
  | none => rfl
  | some word =>
      simp only [Option.map_some, Meaning.answered, labelled, ← List.map_dropLast]
      rfl

private theorem swap_relabel (items : List Word) (distance : Int) :
    Meaning.swap (items.map label) distance = (Meaning.swap items distance).relabel label := by
  unfold Meaning.swap
  rw [List.length_map]
  split
  · rw [exchangeLast_map]
    rfl
  · rfl

theorem meaning_relabel {op : Op} (noDigest : op ≠ .digest) (items : List Word) :
    (op.relabel label).meaning (items.map label) = (op.meaning items).relabel label := by
  unfold Op.relabel
  cases pushes : op.pushed? with
  | some word =>
      rw [meaning_eq_push pushes]
      exact push_relabel label items word
  | none =>
      cases op with
      | push | pushUInt256 | pushAddress | pushClientAddress | pushSize => cases pushes
      | pushInt value =>
          simp only [Op.pushed?] at pushes
          cases read : Word.ofOptionalInt value with
          | error error =>
              simp only [Op.meaning, read]
              rfl
          | ok word =>
              rw [read] at pushes
              cases pushes
      | pop => exact pop_relabel label (fun _ => rfl) items
      | popUInt256 =>
          refine pop_relabel label (fun word => ?_) items
          simp only [Reply.relabel, Word.ofUInt256_toUInt256]
      | swap distance => exact swap_relabel label items distance
      | peek position =>
          simp only [Op.meaning, List.getElem?_map]
          split
          · rfl
          · rfl
      | snapshot =>
          simp only [Op.meaning, ← List.map_reverse]
          rfl
      | depth =>
          simp only [Op.meaning, List.length_map]
          rfl
      | digest => exact absurd rfl noDigest
      | items | capacity | reset => rfl

/-! ## Relabelled stacks and runs -/

structure Relabelled (stack image : Stack Sink) : Prop where
  items : image.items = stack.items.map label
  tracer : image.tracer = stack.tracer

/-- The second run shows what the first one shows, with labels for words: a refusal is the same
refusal, and an answer the same answer up to labels. -/
structure Run.Relabelled (run image : Run Sink) : Prop where
  results : image.results = run.results.map (Except.map (.relabel label))
  calls : image.calls = run.calls.map (.relabel label)
  stack : Stack.Relabelled label run.stack image.stack

variable {label} {stack image : Stack Sink}

theorem Relabelled.apply (labels : Relabelled label stack image) {op : Op}
    (noDigest : op ≠ .digest) :
    (image.apply (op.relabel label)).result = (stack.apply op).result.map (.relabel label) ∧
      (image.apply (op.relabel label)).calls = (stack.apply op).calls.map (.relabel label) ∧
      Relabelled label (stack.apply op).stack (image.apply (op.relabel label)).stack := by
  have original := apply_realizes stack op
  have relabelled := apply_realizes image (op.relabel label)
  rw [labels.items, labels.tracer, meaning_relabel label noDigest] at relabelled
  refine ⟨?_, ?_, ?_, ?_⟩
  · rw [relabelled.result, original.result]
    rfl
  · rw [relabelled.calls, original.calls]
    cases reported : (op.meaning stack.items).reported with
    | none => simp only [Meaning.relabel, reported, Option.map_none, Option.getD_none, List.map_nil]
    | some word =>
        simp only [Meaning.relabel, reported, Option.map_some, Option.getD_some, List.length_map,
          Tracer.notify_relabel]
  · rw [relabelled.items, original.items]
    rfl
  · rw [relabelled.tracer, original.tracer]

/-- A stack is blind to its words: for every rule that gives words labels, and whether or not it
keeps different words apart, a run on a stack of labels is the run on the stack of words with labels
for words. So the same operations are refused with the same reports, and every word that is popped,
peeked, listed or reported to a sink is the label of the one in the other run, at the same depth. -/
theorem run_blind_to_words (label : Word → Word) (stack image : Stack Sink)
    (labels : Relabelled label stack image) (ops : List Op) (noDigest : .digest ∉ ops) :
    Run.Relabelled label (run stack ops) (run image (ops.map (.relabel label))) := by
  induction ops generalizing stack image with
  | nil => exact ⟨rfl, rfl, labels⟩
  | cons op rest ih =>
      have noDigestFirst : op ≠ .digest := fun same => noDigest (same ▸ .head rest)
      have noDigestRest : .digest ∉ rest := fun member => noDigest (.tail op member)
      obtain ⟨result, calls, labelsRest⟩ := labels.apply noDigestFirst
      obtain ⟨results, callsRest, final⟩ := ih _ _ labelsRest noDigestRest
      refine ⟨?_, ?_, final⟩
      · simp only [List.map_cons, run, result, results]
      · simp only [List.map_cons, run, calls, callsRest, List.map_append]

def twoWords (lower upper : Word) : Stack Nat :=
  ⟨⟨#[lower, upper], 2, Nat.le_refl 2⟩, .single 7⟩

def mixedOps : List Op :=
  [.swap 1, .peek 0, .swap 2, .pop, .pushSize 8]

/-- Under one label for all words, the two words cannot be told apart any more; the places of the
answers and of the refusal stay. -/
theorem twoWords_blind_to_words :
    (run (twoWords (.ofUInt64 5) (.ofUInt64 6)) mixedOps).results =
        [.ok .done, .ok (.found (some (.ofUInt64 6))),
          .error (.stack ⟨.swap, 2, 2, .condition .stackUnderflow⟩), .ok (.word (.ofUInt64 5)),
          .ok .done] ∧
      (run (twoWords .zero .zero) (mixedOps.map (.relabel fun _ => .zero))).results =
        [.ok .done, .ok (.found (some .zero)),
          .error (.stack ⟨.swap, 2, 2, .condition .stackUnderflow⟩), .ok (.word .zero),
          .ok .done] := by
  have shown : (run (twoWords (.ofUInt64 5) (.ofUInt64 6)) mixedOps).results =
      [.ok .done, .ok (.found (some (.ofUInt64 6))),
        .error (.stack ⟨.swap, 2, 2, .condition .stackUnderflow⟩), .ok (.word (.ofUInt64 5)),
        .ok .done] := by
    decide +kernel
  have labels : Relabelled (fun _ => Word.zero) (twoWords (.ofUInt64 5) (.ofUInt64 6))
      (twoWords .zero .zero) :=
    ⟨rfl, rfl⟩
  have blind := (run_blind_to_words _ _ _ labels mixedOps (by simp [mixedOps])).results
  rw [shown] at blind
  exact ⟨shown, blind⟩

end Stack

end OperandStack

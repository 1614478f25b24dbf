/-
  Sweeping: what nothing keeps alive leaves the store.

  An entity stays as long as somebody outside the store or another entity holds it. Entities that
  hold one another in a circle stay for ever.
-/
import LiveForm.Store.Basic

namespace LiveForm.Store

variable {H : Type}

/-- The entities that are alive. -/
def entities (s : Store H) : List Entity :=
  s.objects.numbers.map (fun n => .object ⟨n⟩) ++ s.proxies.numbers.map (fun n => .proxy ⟨n⟩) ++
    s.validators.numbers.map (fun n => .validator ⟨n⟩) ++ s.forms.numbers.map (fun n => .form ⟨n⟩)

/-- The entities that are held by entities. -/
def references (s : Store H) : List Entity :=
  s.objects.entries.flatMap (fun e => e.2.entities) ++
    s.proxies.entries.flatMap (fun e => e.2.entities) ++
    s.validators.entries.flatMap (fun e => e.2.entities) ++
    s.forms.entries.flatMap (fun e => e.2.entities)

/-- Takes an entity away; with a proxy or a validator go its subscriptions. -/
def drop (s : Store H) : Entity → Store H
  | .object o => { s with objects := s.objects.remove o.index }
  | .proxy p => let s := s.detach p; { s with proxies := s.proxies.remove p.index }
  | .validator v => let s := s.silence v; { s with validators := s.validators.remove v.index }
  | .form f => { s with forms := s.forms.remove f.index }

/-- An entity that nobody holds, where `held` are those held from outside. -/
def garbage? (s : Store H) (held : List Entity) : Option Entity :=
  let kept := held ++ s.references
  s.entities.find? fun e => !kept.contains e

/-- Takes away at most `n` entities that nobody holds. -/
def sweepUpTo (held : List Entity) : Nat → Store H → Store H
  | 0, s => s
  | n + 1, s =>
    match s.garbage? held with
    | none => s
    | some e => sweepUpTo held n (s.drop e)

/-- Takes away all that nobody holds. -/
def sweep (s : Store H) (held : List Entity) : Store H := sweepUpTo held s.entities.length s

end LiveForm.Store

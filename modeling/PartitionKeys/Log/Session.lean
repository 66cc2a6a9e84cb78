import PartitionKeys.Log.Journal

/-!
# Session — one request to a journal after another

All that is asked of a journal, and what it answers.  A call whose fields have names that calls use
themselves is answered with its fault, and so is a configuration with an unknown level.

* `Journal.Request`, `Journal.Answer`: what is asked and answered;
* `Journal.answer`: one request;
* `Journal.session`: requests in order, with an answer to each.
-/

namespace PartitionKeys
namespace Journal

inductive Request where
  | configure (o : Options) (onTerminal : Bool)
  | openLogger (name : Value)
  | bind (fields : Fields)
  | clear
  | log (now : String) (id : LoggerId) (c : Call)
  | emit (now : String) (events : List Event)

inductive Answer where
  | done
  | opened (id : LoggerId)
  | wrote (lines : List Line)
  | refused (f : LevelFault)
  | misnamed (f : Signature.Fault)

namespace Answer

def ofLevelFault? : Option LevelFault → Answer
  | none => .done
  | some f => .refused f

def ofWritten : Except Signature.Fault (Option Line) → Answer
  | .ok line => .wrote line.toList
  | .error f => .misnamed f

end Answer

def answer (j : Journal) : Request → Journal × Answer
  | .configure o onTerminal =>
      let configured := j.configure o onTerminal
      (configured.1, .ofLevelFault? configured.2)
  | .openLogger name => ((j.openLogger name).2, .opened (j.openLogger name).1)
  | .bind fields => (j.bind fields, .done)
  | .clear => (j.clear, .done)
  | .log now id c =>
      let logged := j.log now id c
      (logged.1, .ofWritten logged.2)
  | .emit now events =>
      let emitted := j.emit now events
      (emitted.1, .wrote emitted.2)

def session (j : Journal) : List Request → Journal × List Answer
  | [] => (j, [])
  | r :: rest =>
      let next := j.answer r
      let later := next.1.session rest
      (later.1, next.2 :: later.2)

end Journal
end PartitionKeys

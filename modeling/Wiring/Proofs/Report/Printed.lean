import Wiring.Proofs.Json
import Wiring.Report
/-!
# Printed — a report as JSON tells the trace it is of

Each part of a trace has a value of its own (`Finding.json_inj`, `Entry.json_inj`, `Trace.json_inj`), and values that are
printed alike are one.
-/
namespace Wiring

@[simp]
theorem Phase.tag_inj {p q : Phase} : p.tag = q.tag ↔ p = q := by
  cases p <;> cases q <;> simp [tag]

/-- A custom kind is no text, so that its name may be that of another kind. -/
@[simp]
theorem ConditionKind.json_inj {k l : ConditionKind} : k.json = l.json ↔ k = l := by
  cases k <;> cases l <;> simp [json]

@[simp]
theorem Outcome.json_inj {o p : Outcome} : o.json = p.json ↔ o = p := by
  cases o <;> cases p <;> simp [json]

@[simp]
theorem Finding.json_inj {f g : Finding} : f.json = g.json ↔ f = g := by
  cases f
  cases g
  simp [json]

@[simp]
theorem Entry.json_inj {e f : Entry} : e.json = f.json ↔ e = f := by
  have hfindings : Function.Injective Finding.json := fun _ _ => Finding.json_inj.1
  cases e
  cases f
  simp [json, List.map_inj_right hfindings]

theorem Trace.json_inj {t u : Trace} : Trace.json t = Trace.json u ↔ t = u := by
  have hentries : Function.Injective Entry.json := fun _ _ => Entry.json_inj.1
  simp [Trace.json, List.map_inj_right hentries]

/-- **A report as JSON tells its trace**: traces with the same report are one, whatever characters their ids,
descriptions, messages, reasons and names of conditions have. -/
theorem Report.jsonText_inj {t u : Trace} : jsonText t = jsonText u ↔ t = u := by
  unfold jsonText
  rw [Json.pretty_inj, Trace.json_inj]

end Wiring

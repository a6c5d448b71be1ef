import ScreenScript.Proofs.Engine.History
import ScreenScript.Proofs.Script.Acts

namespace ScreenScript.Engine

open Script Selector

variable {σ : Type}

example :
    let e := history {} 100 () [.install (fun _ _ => .answer none : Host Unit)]
    let source := "let s = newSelector(); let t = s; s.text(\"a\").depth(); t.depth(3).findOnce(2)"
    (e.turns source "main").map (·.call) = [⟨Verb.selectorFindOnce,
      ["[\x7b\"type\":\"text\",\"value\":\"a\"\x7d,\x7b\"type\":\"depth\",\"value\":\"3\"\x7d]", "2"]⟩] := by
  decide +kernel

end ScreenScript.Engine

import Warden.Codec.Tree
import Warden.Proofs.Json.Records
import Warden.Proofs.Path.Tree
import Warden.Proofs.Path.Written

namespace Warden.PatternTree

open Json

theorem plain_patterns (ps : List Pattern) : plainItems (ps.map Pattern.toJson) = true := by
  refine plainItems_iff.2 fun j hj => ?_
  obtain ⟨p, -, rfl⟩ := List.mem_map.1 hj
  rfl

theorem toBytes_ne_nil (t : PatternTree) : t.toBytes ≠ [] := by
  intro hnil
  have hchars : Text.chars t.toBytes = (t.toJson.text compact).toList := by
    rw [toBytes, Text.chars_bytes]
  obtain ⟨c, cs, hwrite, -⟩ :=
    write_head (j := t.toJson) (plain_patterns t.patterns) compact 0
  rw [hnil, Json.text, String.toList_ofList, hwrite] at hchars
  cases hchars

theorem ofBytes_toBytes {t : PatternTree} (ht : t.Canonical) : ofBytes t.toBytes = .ok t := by
  have hempty : t.toBytes.isEmpty = false := by simpa using t.toBytes_ne_nil
  have hdecode : decodeChars (decodeList Pattern.ofJson) (Text.chars t.toBytes) =
      .ok t.patterns := by
    rw [toBytes, Text.chars_bytes,
      decodeChars_text _ blank_compact (j := t.toJson) (plain_patterns t.patterns)]
    exact decodeList_map fun p _ => p.ofJson_toJson _
  rw [ofBytes, hempty, hdecode]
  exact congrArg Except.ok ht.ofList_patterns

end Warden.PatternTree

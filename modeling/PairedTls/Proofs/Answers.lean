import PairedTls.Api

namespace PairedTls

namespace JsonText

def plain (c : Char) : Bool :=
  32 ≤ c.toNat && c != '"' && c != '\\'

theorem escaped_plain {c : Char} (h : plain c = true) : escaped c = c.toString := by
  simp only [plain, Bool.and_eq_true, decide_eq_true_eq, bne_iff_ne, ne_eq] at h
  obtain ⟨⟨hlow, hquote⟩, hslash⟩ := h
  have hcontrol : ∀ d : Char, d.toNat < 32 → c ≠ d := by
    rintro d hd rfl
    omega
  have hother := escaped.eq_8 c hquote hslash (hcontrol _ (by decide)) (hcontrol _ (by decide))
    (hcontrol _ (by decide)) (hcontrol _ (by decide)) (hcontrol _ (by decide))
  rw [hother, if_neg (by omega)]

theorem quoted_plain {s : String} (h : s.toList.all plain = true) : quoted s = "\"" ++ s ++ "\"" := by
  have hsame : s.toList.map escaped = s.toList.map Char.toString :=
    List.map_congr_left fun c hc => escaped_plain (List.all_eq_true.1 h c hc)
  have hjoin : String.join (s.toList.map Char.toString) = s := by
    apply String.toList_injective
    rw [String.toList_join, List.flatMap_map]
    simp [Char.toString_eq_singleton]
  rw [quoted, hsame, hjoin]

/-- Members whose names are in order already are written as they stand. -/
theorem render_ofMembers {members : List (String × JsonText)} (h : (members.map Prod.fst).Pairwise (· ≤ ·)) :
    (ofMembers members).render = "\x7b" ++ ",".intercalate (renderMembers members) ++ "\x7d" := by
  have hsorted : members.Pairwise fun a b => decide (a.1 ≤ b.1) = true :=
    (List.pairwise_map.1 h).imp fun hab => decide_eq_true hab
  rw [ofMembers, sorted, List.mergeSort_of_pairwise hsorted, render]

end JsonText

theorem Hex.plain_encode (b : Bytes) : (encode b).toList.all JsonText.plain = true := by
  have hdigit : ∀ n < 16, JsonText.plain (digit n) = true := by decide
  rw [encode, String.toList_ofList, List.all_eq_true]
  intro c hc
  obtain ⟨x, -, hc⟩ := List.mem_flatMap.1 hc
  have hx := x.toNat_lt
  simp only [byte, List.mem_cons, List.not_mem_nil, or_false] at hc
  rcases hc with rfl | rfl
  · exact hdigit _ (by omega)
  · exact hdigit _ (by omega)

namespace Api

/-- An answer to a request for JSON, to the byte. -/
def jsonResponse (status : Nat) (text : String) : Response where
  status := status
  headers := [("content-length", (Bytes.ofString text).length.repr), ("content-type", "application/json")]
  body := Bytes.ofString text

theorem response_json {members : List (String × JsonText)} {text : String}
    (h : (JsonText.ofMembers members).render = text) (status : Nat) :
    (json status members).response true = jsonResponse status text := by
  rw [json, h]
  rfl

theorem response_refused {message : String} (h : message.toList.all JsonText.plain = true) :
    (unauthorized message).response true =
      jsonResponse 401 ("\x7b\"paired\":false,\"status_code\":401,\"status_message\":\"" ++ message ++ "\"\x7d") := by
  have hnames : List.Pairwise (· ≤ ·) ["paired", "status_code", "status_message"] := by decide +kernel
  have hpaired : JsonText.quoted "paired" = "\"paired\"" := JsonText.quoted_plain rfl
  have hcode : JsonText.quoted "status_code" = "\"status_code\"" := JsonText.quoted_plain rfl
  have hmessage : JsonText.quoted "status_message" = "\"status_message\"" := JsonText.quoted_plain rfl
  have hnumber : (401 : Nat).repr = "401" := by decide +kernel
  have htext : (JsonText.ofMembers [("paired", .bool false), ("status_code", .nat 401),
      ("status_message", .text message)]).render =
        "\x7b\"paired\":false,\"status_code\":401,\"status_message\":\"" ++ message ++ "\"\x7d" := by
    rw [JsonText.render_ofMembers (by exact hnames)]
    simp only [JsonText.renderMembers, JsonText.render, hpaired, hcode, hmessage, hnumber, JsonText.quoted_plain h]
    apply String.toList_injective
    simp
  exact response_json htext 401

theorem response_trusted (c : Certificate) :
    (json 200 [("paired", .bool true), ("server_fingerprint", .text c.fingerprint)]).response true =
      jsonResponse 200 ("\x7b\"paired\":true,\"server_fingerprint\":\"" ++ c.fingerprint ++ "\"\x7d") := by
  have hnames : List.Pairwise (· ≤ ·) ["paired", "server_fingerprint"] := by decide +kernel
  have hpaired : JsonText.quoted "paired" = "\"paired\"" := JsonText.quoted_plain rfl
  have hname : JsonText.quoted "server_fingerprint" = "\"server_fingerprint\"" := JsonText.quoted_plain rfl
  have hplain : c.fingerprint.toList.all JsonText.plain = true := Hex.plain_encode _
  have htext : (JsonText.ofMembers [("paired", .bool true), ("server_fingerprint", .text c.fingerprint)]).render =
      "\x7b\"paired\":true,\"server_fingerprint\":\"" ++ c.fingerprint ++ "\"\x7d" := by
    rw [JsonText.render_ofMembers (by exact hnames)]
    simp only [JsonText.renderMembers, JsonText.render, hpaired, hname, JsonText.quoted_plain hplain]
    apply String.toList_injective
    simp
  exact response_json htext 200

end Api
end PairedTls

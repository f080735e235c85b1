import Dialogue.Proofs.Json.Text
import Dialogue.Proofs.Message.Suggestions
import Dialogue.Proofs.Table

/-!
# Derived payloads

A suggestion that brought no payload gets one that is cut from an object: what the suggestion is and what it says. The
cut counts characters of the compact form, in which a character of the text may take up to six. Where nothing is cut
off, the object can be read back, so the payload belongs to this suggestion alone: an object closes itself, and the
payload of another suggestion does not become equal to it by being cut either.
-/
namespace Dialogue

/-- The object that a derived payload is cut from. -/
def payloadForm (action text : String) : Json := .obj [("action", .str action), ("text", .str text)]

/-! ## The cut -/

/-- What begins a derived payload is what begins the whole form and is not too long. -/
theorem isPrefix_derivePostback_iff (s action text : String) :
    s.toList <+: (derivePostback action text).toList ↔
      s.toList <+: (payloadForm action text).compact.toList ∧ s.length ≤ 2048 := by
  rw [derivePostback, Json.compact, String.toList_ofList, String.toList_ofList, List.prefix_take_iff,
    String.length_toList]
  rfl

theorem derivePostback_isPrefix (action text : String) :
    (derivePostback action text).toList <+: (payloadForm action text).compact.toList :=
  ((isPrefix_derivePostback_iff _ action text).mp (List.prefix_refl _)).1

theorem derivePostback_of_fits {action text : String}
    (fits : (payloadForm action text).compact.length ≤ 2048) :
    derivePostback action text = (payloadForm action text).compact := by
  have whole := (isPrefix_derivePostback_iff _ action text).mpr ⟨List.prefix_refl _, fits⟩
  have part := derivePostback_isPrefix action text
  exact String.toList_inj.mp (part.eq_of_length_le whole.length_le)

/-! ## Reading it back -/

theorem readsBack_payload (action text : String) :
    ∀ entry ∈ [("action", Json.str action), ("text", Json.str text)], Json.ReadsBack entry.2 := by
  simp [Json.readsBack_str]

theorem settle_payloadForm (action text : String) :
    (payloadForm action text).settle = payloadForm action text := by
  have distinct : (["action", "text"] : List String).Nodup := by decide
  exact congrArg (fun table => Json.obj table.entries)
    (Table.ofLast_entries ⟨[("action", Json.str action), ("text", Json.str text)], distinct⟩)

theorem parse_payloadForm (action text : String) :
    Json.parse (payloadForm action text).compact = .ok (payloadForm action text) := by
  have back : Json.ReadsBack (payloadForm action text) := Json.readsBack_obj (readsBack_payload action text)
  exact back.parse_compact rfl (settle_payloadForm action text)

/-- A form that fits is told from every other one, also from one that does not fit. -/
theorem eq_of_derivePostback_eq {action text action' text' : String}
    (fits : (payloadForm action text).compact.length ≤ 2048)
    (same : derivePostback action' text' = derivePostback action text) :
    action' = action ∧ text' = text := by
  -- The form that fits begins the other one, which may go on where it was cut.
  have begins := derivePostback_isPrefix action' text'
  rw [same, derivePostback_of_fits fits, Json.compact, Json.compact, String.toList_ofList,
    String.toList_ofList] at begins
  have entries := Json.obj_eq_of_isPrefix (readsBack_payload action text)
    (readsBack_payload action' text') begins
  simp only [List.cons.injEq, Prod.mk.injEq, Json.str.injEq, true_and, and_true] at entries
  exact ⟨entries.1.symm, entries.2.symm⟩

/-- A derived payload is the longest beginning of the compact form of its object that has at most 2048 characters. Where
the whole form has no more than that, the payload parses as the object, and no other suggestion gets the same one,
whether the form of that one fits or is cut. -/
theorem derived_payloads_identify (action text : String) :
    (derivePostback action text).length ≤ 2048 ∧
      (derivePostback action text).toList <+: (payloadForm action text).compact.toList ∧
      (∀ s : String, s.toList <+: (payloadForm action text).compact.toList → s.length ≤ 2048 →
        s.toList <+: (derivePostback action text).toList) ∧
      ((payloadForm action text).compact.length ≤ 2048 →
        Json.parse (derivePostback action text) = .ok (payloadForm action text) ∧
        ∀ action' text' : String, (action', text') ≠ (action, text) →
          derivePostback action' text' ≠ derivePostback action text) := by
  refine ⟨length_derivePostback_le action text, derivePostback_isPrefix action text, ?_, fun fits => ⟨?_, ?_⟩⟩
  · intro s begins short
    exact (isPrefix_derivePostback_iff s action text).mpr ⟨begins, short⟩
  · rw [derivePostback_of_fits fits]
    exact parse_payloadForm action text
  · intro action' text' different same
    obtain ⟨rfl, rfl⟩ := eq_of_derivePostback_eq fits same
    exact different rfl

/-- A text with a quote, a backslash, a control character and one beyond ASCII. -/
theorem derived_payloads_identify_escaped :
    (payloadForm "reply" "\"Café\" \\ \x01").compact.length ≤ 2048 ∧
      derivePostback "reply" "\"Café\" \\ \x01" =
        "\x7b\"action\":\"reply\",\"text\":\"\\\"Café\\\" \\\\ \\u0001\"\x7d" ∧
      Json.parse (derivePostback "reply" "\"Café\" \\ \x01") =
        .ok (payloadForm "reply" "\"Café\" \\ \x01") ∧
      derivePostback "action" "\"Café\" \\ \x01" ≠ derivePostback "reply" "\"Café\" \\ \x01" := by
  have fits : (payloadForm "reply" "\"Café\" \\ \x01").compact.length ≤ 2048 := by decide
  obtain ⟨_, _, _, identified⟩ := derived_payloads_identify "reply" "\"Café\" \\ \x01"
  obtain ⟨parsed, apart⟩ := identified fits
  exact ⟨fits, by decide, parsed, apart _ _ (by decide)⟩

end Dialogue

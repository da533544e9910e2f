import ChatAssistant.Backend.Query
import ChatAssistant.Message
import ChatAssistant.Proofs.Json.Fields
import ChatAssistant.Proofs.Timestamp.Notation

/-!
Records of a conversation as JSON text: what is written of a message, or of a question to a
backend, is read as the same message or question.
-/

namespace ChatAssistant

open Json (IsExact)
open Json.Document

/-! ### Messages -/

@[simp]
theorem Role.ofDocument?_ofJson (role : Role) :
    Role.ofDocument? (ofJson (.string role.name)) = some role := by
  rw [ofJson, Role.ofDocument?, ofText, Json.symbolText?_written]
  cases role <;> rfl

theorem SourceLink.isExact_toJson (link : SourceLink) : IsExact link.toJson := by
  refine .object _ ?_
  intro member inside
  simp only [List.mem_cons, List.not_mem_nil, or_false] at inside
  rcases inside with rfl | rfl | rfl
  · exact .string link.title
  · exact .string link.snippet
  · exact .string link.url

@[simp]
theorem SourceLink.ofDocument?_toJson (link : SourceLink) :
    SourceLink.ofDocument? (ofJson link.toJson) = some link := by
  simp [SourceLink.ofDocument?, SourceLink.toJson, memberNamed?, defaulted?]

namespace Message

theorem readTimestamp?_text {timestamp : Timestamp} (proper : timestamp.IsProper) :
    readTimestamp? (ofJson (.string (String.ofList timestamp.text))) = some timestamp := by
  rw [readTimestamp?, text?_ofJson, Option.bind_some, String.toList_ofList,
    Timestamp.read?_text proper]

theorem isExact_links (links : List SourceLink) :
    IsExact (.array (links.map SourceLink.toJson)) := by
  refine .array _ ?_
  intro item inside
  obtain ⟨link, _, rfl⟩ := List.mem_map.mp inside
  exact link.isExact_toJson

theorem isExact_toJson (message : Message) : IsExact message.toJson := by
  obtain ⟨id, role, content, timestamp, links⟩ := message
  refine .object _ ?_
  intro member inside
  cases links with
  | none =>
      simp only [linkMembers, List.append_nil, List.mem_cons, List.not_mem_nil, or_false] at inside
      rcases inside with rfl | rfl | rfl | rfl
      · exact .integer id
      · exact .string role.name
      · exact .string content
      · exact .string _
  | some links =>
      simp only [linkMembers, List.cons_append, List.nil_append, List.mem_cons, List.not_mem_nil,
        or_false] at inside
      rcases inside with rfl | rfl | rfl | rfl | rfl
      · exact .integer id
      · exact .string role.name
      · exact .string content
      · exact .string _
      · exact isExact_links links

@[simp]
theorem readLinks?_ofJson (links : List SourceLink) :
    readLinks? (some (ofJson (.array (links.map SourceLink.toJson)))) = some (some links) := by
  have read : list? SourceLink.ofDocument? (ofJson (.array (links.map SourceLink.toJson))) =
      some links :=
    list?_ofJson fun link _ => link.ofDocument?_toJson
  rw [ofJson] at read ⊢
  rw [readLinks?, optional?, read, Option.map_some]
  intro null
  cases null

theorem ofDocument?_toJson {message : Message} (fits : message.id < UInt64.size)
    (proper : message.timestamp.IsProper) :
    ofDocument? (ofJson message.toJson) = some message := by
  obtain ⟨id, role, content, timestamp, links⟩ := message
  have number := natural?_ofJson fits
  have time := readTimestamp?_text proper
  cases links with
  | none =>
      simp [ofDocument?, toJson, linkMembers, memberNamed?, required?, number, time, readLinks?,
        optional?]
  | some links =>
      simp [ofDocument?, toJson, linkMembers, memberNamed?, required?, number, time]

theorem read?_toJson {message : Message} (fits : message.id < UInt64.size)
    (proper : message.timestamp.IsProper) :
    read? message.toJson.text = some message := by
  rw [read?, Json.text, String.toList_ofList, read?_compact message.isExact_toJson,
    Option.bind_some, ofDocument?_toJson fits proper]

theorem fields_of_read? {text : String} {message : Message} (read : read? text = some message) :
    ∃ document id role content time links, Json.Document.read? text.toList = some document ∧
      document.fields? ["id", "role", "content", "timestamp", "searchResults"] =
        some [id, role, content, time, links] ∧
      Json.Document.required? Json.Document.natural? id = some message.id ∧
      Json.Document.required? readTimestamp? time = some message.timestamp := by
  obtain ⟨document, documentRead, record⟩ := Option.bind_eq_some_iff.mp read
  unfold ofDocument? at record
  simp only [Option.bind_eq_bind, Option.bind_eq_some_iff] at record
  obtain ⟨fields, fieldsRead, record⟩ := record
  split at record
  · simp only [Option.bind_eq_some_iff] at record
    obtain ⟨_, idRead, _, _, _, _, _, timeRead, _, _, same⟩ := record
    cases same
    exact ⟨document, _, _, _, _, _, documentRead, fieldsRead, idRead, timeRead⟩
  · cases record

theorem proper_of_read? {text : String} {message : Message} (read : read? text = some message) :
    message.id < UInt64.size ∧ message.timestamp.IsProper := by
  obtain ⟨_, id, _, _, time, _, _, _, idRead, timeRead⟩ := fields_of_read? read
  obtain ⟨idDocument, _, idRead⟩ := Option.bind_eq_some_iff.mp idRead
  obtain ⟨timeDocument, _, timeRead⟩ := Option.bind_eq_some_iff.mp timeRead
  obtain ⟨words, _, timeRead⟩ := Option.bind_eq_some_iff.mp timeRead
  exact ⟨natural?_lt idRead, Timestamp.isProper_of_read? timeRead⟩

theorem write?_eq {message : Message} (proper : message.timestamp.IsProper) :
    message.write? = some message.toJson.text := by
  rw [write?, if_pos (Timestamp.isWritable_of_isProper proper)]

end Message

/-! ### Questions -/

namespace Query

theorem isExact_toJson (query : Query) : IsExact query.toJson := by
  cases query with
  | math expression =>
      refine .object _ ?_
      intro member inside
      cases List.mem_singleton.mp inside
      exact .string expression
  | search words =>
      refine .object _ ?_
      intro member inside
      cases List.mem_singleton.mp inside
      exact .string words

theorem textRecord?_ofJson (field text : String) :
    textRecord? field (ofJson (.object [(field, .string text)])) = some text := by
  simp [textRecord?, memberNamed?, required?]

theorem readMath?_toJson (expression : String) :
    readMath? (Query.math expression).toJson.text.toList = some (.math expression) := by
  rw [readMath?, Json.text, String.toList_ofList, read?_compact (isExact_toJson _),
    Option.bind_some, toJson, textRecord?_ofJson, Option.map_some]

theorem readSearch?_toJson (words : String) :
    readSearch? (Query.search words).toJson.text.toList = some (.search words) := by
  rw [readSearch?, Json.text, String.toList_ofList, read?_compact (isExact_toJson _),
    Option.bind_some, toJson, textRecord?_ofJson, Option.map_some]

end Query

/-- A message that can be read can be written, and what is written is read as that message and is
written in the same way again. A question to a backend is read as it was asked. -/
theorem Message.read?_of_write? {text : String} {message : Message}
    (read : Message.read? text = some message) (words : String) :
    (∃ written, message.write? = some written ∧ Message.read? written = some message ∧
        (Message.read? written).bind write? = some written) ∧
      Query.readMath? (Query.math words).toJson.text.toList = some (.math words) ∧
      Query.readSearch? (Query.search words).toJson.text.toList = some (.search words) := by
  obtain ⟨fits, proper⟩ := Message.proper_of_read? read
  have written := write?_eq proper
  have readBack := read?_toJson fits proper
  refine ⟨⟨message.toJson.text, written, readBack, ?_⟩, Query.readMath?_toJson words,
    Query.readSearch?_toJson words⟩
  rw [readBack, Option.bind_some, written]

/-- The last second of a year in universal time is a second past it elsewhere. -/
theorem Message.read?_of_write?_leapSecond :
    let text := "\x7b\"searchResults\":[],\"id\":18446744073709551615," ++
      "\"content\":\"\\u0001\\ud83d\\ude00\",\"role\":\x7b\"assistant\":null\x7d," ++
      "\"timestamp\":\"2017-01-01 00:59:60.25+01:00\"\x7d"
    let message : Message := ⟨18446744073709551615, .assistant, "\x01😀",
      ⟨⟨2017, 1, 1⟩, 0, 59, 59, 999999999, 60⟩, some []⟩
    Message.read? text = some message ∧
      (∃ written, message.write? = some written ∧ Message.read? written = some message ∧
        (Message.read? written).bind write? = some written) ∧
      Query.readMath? (Query.math "\x01\"").toJson.text.toList = some (.math "\x01\"") ∧
      Query.readSearch? (Query.search "\x01\"").toJson.text.toList = some (.search "\x01\"") := by
  intro text message
  have read : Message.read? text = some message := by decide +kernel
  exact ⟨read, read?_of_write? read "\x01\""⟩

end ChatAssistant

import ChatAssistant.Backend.InstantAnswer
import ChatAssistant.Reply

/-!
What is said about an instant answer that says nothing. The hit that stands for no hit quotes the
question behind the snippet by which such a hit is known, so that it is never known.
-/

namespace ChatAssistant

namespace Reply

private theorem found_first (query snippet : String) (hits : List Hit) :
    (found query snippet hits).content.toList.head? = some 'П' := by
  have opening : "По вашему запросу \"".toList.head? = some 'П' := by decide +kernel
  unfold found
  rw [String.toList_append, String.toList_append, String.toList_append, List.head?_append,
    List.head?_append, List.head?_append, opening, Option.some_or, Option.some_or,
    Option.some_or]

private theorem nothingSpecific_first (query : String) :
    (nothingSpecific query).content.toList.head? = some 'К' := by
  have opening : "К сожалению, по запросу \"".toList.head? = some 'К' := by decide
  unfold nothingSpecific
  rw [String.toList_append, String.toList_append, List.head?_append, List.head?_append, opening,
    Option.some_or, Option.some_or]

theorem found_ne_nothingFound (query snippet : String) (hits : List Hit) :
    found query snippet hits ≠ nothingFound := by
  intro same
  have first := found_first query snippet hits
  rw [same] at first
  exact absurd first (by decide +kernel)

theorem found_ne_nothingSpecific (query snippet : String) (hits : List Hit) :
    found query snippet hits ≠ nothingSpecific query := by
  intro same
  have first := found_first query snippet hits
  rw [same, nothingSpecific_first] at first
  exact absurd first (by decide)

theorem usableSnippet?_eq_none_iff (hit : Hit) :
    usableSnippet? hit = none ↔
      hit.snippet.getD "" = "" ∨ hit.snippet = some placeholderSnippet := by
  unfold usableSnippet?
  cases hit.snippet with
  | none => exact iff_of_true rfl (Or.inl rfl)
  | some snippet =>
      rw [Option.filter_eq_none_iff, Option.getD_some, Option.some.injEq]
      simp only [Option.some.injEq, forall_eq', Bool.and_eq_true, Bool.not_eq_true',
        String.isEmpty_eq_false_iff, decide_eq_true_eq, ne_eq, not_and, Decidable.not_not]
      exact Decidable.or_iff_not_imp_left.symm

theorem usableSnippet?_of_said {hit : Hit} {snippet : String} (quoted : hit.snippet = some snippet)
    (said : snippet ≠ "") (meant : snippet ≠ placeholderSnippet) :
    usableSnippet? hit = some snippet := by
  unfold usableSnippet?
  rw [quoted, Option.filter_eq_some_iff]
  refine ⟨rfl, ?_⟩
  rw [Bool.and_eq_true, Bool.not_eq_true', String.isEmpty_eq_false_iff, decide_eq_true_iff]
  exact ⟨said, meant⟩

/-- A snippet can only be known as none if it is no longer than that of no hit. -/
theorem usableSnippet?_of_longer {hit : Hit} {snippet : String}
    (quoted : hit.snippet = some snippet)
    (longer : placeholderSnippet.length < snippet.length) :
    usableSnippet? hit = some snippet := by
  apply usableSnippet?_of_said quoted
  · rintro rfl
    exact absurd longer (Nat.not_lt_zero _)
  · rintro rfl
    exact absurd longer (Nat.lt_irrefl _)

theorem ofSearchAnswer_of_unusable (query : String) {first : Hit} (more : List Hit)
    (unusable : usableSnippet? first = none) :
    ofSearchAnswer query ⟨some (first :: more)⟩ = nothingSpecific query := by
  simp only [ofSearchAnswer, Option.getD_some, unusable]

theorem ofSearchAnswer_of_usable (query : String) {first : Hit} (more : List Hit)
    {snippet : String} (usable : usableSnippet? first = some snippet) :
    ofSearchAnswer query ⟨some (first :: more)⟩ = found query snippet (first :: more) := by
  simp only [ofSearchAnswer, Option.getD_some, usable]

/-- Where there are hits, nothing counts as found exactly if the first of them says nothing. -/
theorem ofSearchAnswer_cons_eq_nothing_iff (query : String) (first : Hit) (more : List Hit) :
    (ofSearchAnswer query ⟨some (first :: more)⟩ = nothingFound ∨
      ofSearchAnswer query ⟨some (first :: more)⟩ = nothingSpecific query) ↔
      usableSnippet? first = none := by
  cases usable : usableSnippet? first with
  | none => exact iff_of_true (Or.inr (ofSearchAnswer_of_unusable query more usable)) rfl
  | some snippet =>
      rw [ofSearchAnswer_of_usable query more usable]
      apply iff_of_false
      · rintro (same | same)
        · exact found_ne_nothingFound query snippet _ same
        · exact found_ne_nothingSpecific query snippet _ same
      · intro impossible
        cases impossible

end Reply

theorem RelatedTopic.hit?_eq_none_iff (topic : RelatedTopic) :
    topic.hit? = none ↔ topic.text = none ∨ topic.address = none := by
  obtain ⟨text, address⟩ := topic
  cases text with
  | none => exact iff_of_true rfl (Or.inl rfl)
  | some text =>
      cases address with
      | none => exact iff_of_true rfl (Or.inr rfl)
      | some address => simp only [hit?, reduceCtorEq, or_self]

namespace InstantAnswer

def SaysNothing (answer : InstantAnswer) : Prop :=
  answer.summary.getD "" = "" ∧
    ∀ topic ∈ answer.topics.take topicLimit, topic.text = none ∨ topic.address = none

instance (answer : InstantAnswer) : Decidable answer.SaysNothing :=
  inferInstanceAs (Decidable (_ ∧ _))

theorem summaryHit?_eq_none_iff (answer : InstantAnswer) :
    answer.summaryHit? = none ↔ answer.summary.getD "" = "" := by
  unfold summaryHit?
  cases answer.summary with
  | none => exact iff_of_true rfl rfl
  | some text =>
      simp only [Option.getD_some, ite_eq_left_iff, reduceCtorEq, imp_false, String.isEmpty_iff,
        Decidable.not_not]

theorem hits_eq_nil_iff (answer : InstantAnswer) : answer.hits = [] ↔ answer.SaysNothing := by
  unfold hits SaysNothing
  rw [List.append_eq_nil_iff, Option.toList_eq_nil_iff, summaryHit?_eq_none_iff,
    List.filterMap_eq_nil_iff]
  simp only [RelatedTopic.hit?_eq_none_iff]

theorem searchAnswer_of_saysNothing (query : String) {answer : InstantAnswer}
    (nothing : answer.SaysNothing) : answer.searchAnswer query = ⟨some [noHit query]⟩ := by
  unfold searchAnswer
  rw [answer.hits_eq_nil_iff.mpr nothing]
  rfl

theorem searchAnswer_of_hits (query : String) {answer : InstantAnswer} {first : Hit}
    {more : List Hit} (hits : answer.hits = first :: more) :
    answer.searchAnswer query = ⟨some (first :: more)⟩ := by
  unfold searchAnswer
  rw [hits]
  rfl

/-- The hit that stands for no hit quotes the question, and so it is taken for a hit. -/
theorem usableSnippet?_noHit (query : String) :
    Reply.usableSnippet? (noHit query) = some ("К сожалению, по запросу \"" ++ query ++
      "\" информация не найдена. Попробуйте переформулировать вопрос.") := by
  apply Reply.usableSnippet?_of_longer rfl
  have opening : Reply.placeholderSnippet.length < "К сожалению, по запросу \"".length := by
    decide +kernel
  rw [String.length_append, String.length_append]
  omega

/-- The reply to an answer says that nothing was found exactly if the snippet of its first hit is
empty or that of no hit. An answer that says nothing has no hits, and what stands in their place is
told as if it had been found. -/
theorem ofSearchAnswer_searchAnswer (query : String) (answer : InstantAnswer) :
    let reply := Reply.ofSearchAnswer query (answer.searchAnswer query)
    ((reply = .nothingFound ∨ reply = .nothingSpecific query) ↔
      ∃ first, answer.hits.head? = some first ∧
        (first.snippet.getD "" = "" ∨ first.snippet = some Reply.placeholderSnippet)) ∧
    (answer.SaysNothing →
      ¬(reply = .nothingFound ∨ reply = .nothingSpecific query) ∧
      reply.content = "По вашему запросу \"" ++ query ++
        "\" я нашёл следующую информацию:\n\n" ++ ("К сожалению, по запросу \"" ++ query ++
          "\" информация не найдена. Попробуйте переформулировать вопрос.") ∧
      reply.links = none) := by
  intro reply
  have recognised : (reply = .nothingFound ∨ reply = .nothingSpecific query) ↔
      ∃ first, answer.hits.head? = some first ∧
        (first.snippet.getD "" = "" ∨ first.snippet = some Reply.placeholderSnippet) := by
    cases hits : answer.hits with
    | nil =>
        have nothing := answer.hits_eq_nil_iff.mp hits
        simp only [reply, searchAnswer_of_saysNothing query nothing,
          Reply.ofSearchAnswer_cons_eq_nothing_iff, usableSnippet?_noHit, List.head?_nil,
          reduceCtorEq, false_and, exists_false]
    | cons first more =>
        simp only [reply, searchAnswer_of_hits query hits,
          Reply.ofSearchAnswer_cons_eq_nothing_iff, Reply.usableSnippet?_eq_none_iff,
          List.head?_cons, Option.some.injEq, exists_eq_left']
  refine ⟨recognised, ?_⟩
  intro nothing
  have told := Reply.ofSearchAnswer_of_usable query [] (usableSnippet?_noHit query)
  rw [← searchAnswer_of_saysNothing query nothing] at told
  refine ⟨?_, ?_, ?_⟩
  · rw [recognised, answer.hits_eq_nil_iff.mpr nothing]
    rintro ⟨first, impossible, _⟩
    cases impossible
  · exact congrArg Reply.content told
  · exact congrArg Reply.links told

/-- A group of topics is no hit, and neither is a topic without an address. -/
theorem ofSearchAnswer_searchAnswer_group :
    let answer : InstantAnswer :=
      { summary := some "", topics := [⟨none, none⟩, ⟨some "xyz", none⟩] }
    answer.SaysNothing ∧
      (Reply.ofSearchAnswer "xyz" (answer.searchAnswer "xyz")).links = none ∧
      Reply.ofSearchAnswer "xyz" (answer.searchAnswer "xyz") ≠ .nothingSpecific "xyz" := by
  intro answer
  have nothing : answer.SaysNothing := by decide
  obtain ⟨unrecognised, _, unlinked⟩ := (ofSearchAnswer_searchAnswer "xyz" answer).2 nothing
  exact ⟨nothing, unlinked, fun same => unrecognised (Or.inr same)⟩

/-- Of an empty answer it is said that something was found. -/
theorem ofSearchAnswer_searchAnswer_empty :
    ({} : InstantAnswer).SaysNothing ∧
      Reply.ofSearchAnswer "xyz" (({} : InstantAnswer).searchAnswer "xyz") ≠ .nothingFound ∧
      Reply.ofSearchAnswer "xyz" (({} : InstantAnswer).searchAnswer "xyz") ≠
        .nothingSpecific "xyz" := by
  refine ⟨?_, ?_, ?_⟩
  · decide
  · decide +kernel
  · decide +kernel

end InstantAnswer

end ChatAssistant

import ChatAssistant.Backend.InstantAnswer
import ChatAssistant.Proofs.Exchange.Sources
import ChatAssistant.Proofs.InstantAnswer.NothingFound

/-!
What the search lists for an instant answer, and what is said of it: the summary and the topics that
are hits, none of them lost, repeated or moved.
-/

namespace ChatAssistant

namespace RelatedTopic

def dash : List Char := [' ', '-', ' ']

theorem dash_prefix_iff (text : List Char) :
    dash <+: text ↔ ∃ rest, text = ' ' :: '-' :: ' ' :: rest :=
  ⟨fun ⟨rest, split⟩ => ⟨rest, split.symm⟩, fun ⟨rest, split⟩ => ⟨rest, split.symm⟩⟩

theorem beforeDash?_of_dash {text : List Char} (begins : dash <+: text) :
    beforeDash? text = some [] := by
  obtain ⟨rest, rfl⟩ := (dash_prefix_iff text).mp begins
  rfl

theorem beforeDash?_cons {char : Char} {text : List Char} (begins : ¬dash <+: char :: text) :
    beforeDash? (char :: text) = (beforeDash? text).map (char :: ·) := by
  rw [beforeDash?]
  intro rest isSpace isDash
  exact begins ((dash_prefix_iff _).mpr ⟨rest, by rw [isSpace, isDash]⟩)

theorem beforeDash?_eq_none_iff (text : List Char) : beforeDash? text = none ↔ ¬dash <:+: text := by
  induction text with
  | nil => exact iff_of_true rfl (fun inside => List.cons_ne_nil _ _ (List.infix_nil.mp inside))
  | cons char text ih =>
      by_cases begins : dash <+: char :: text
      · rw [beforeDash?_of_dash begins]
        exact iff_of_false (Option.some_ne_none []) (fun absent => absent begins.isInfix)
      · rw [beforeDash?_cons begins, Option.map_eq_none_iff, ih, List.infix_cons_iff, not_or,
          and_iff_right begins]

/-- The part before the dash is the shortest one with a dash behind it. -/
theorem beforeDash?_eq_some {text head : List Char} (found : beforeDash? text = some head) :
    head ++ dash <+: text ∧ ∀ shorter, shorter ++ dash <+: text → head.length ≤ shorter.length := by
  induction text generalizing head with
  | nil => cases found
  | cons char text ih =>
      by_cases begins : dash <+: char :: text
      · rw [beforeDash?_of_dash begins] at found
        cases found
        exact ⟨begins, fun shorter _ => Nat.zero_le shorter.length⟩
      · rw [beforeDash?_cons begins, Option.map_eq_some_iff] at found
        obtain ⟨rest, found, rfl⟩ := found
        obtain ⟨behind, least⟩ := ih found
        refine ⟨List.cons_prefix_cons.mpr ⟨rfl, behind⟩, ?_⟩
        intro shorter isBefore
        cases shorter with
        | nil => exact absurd isBefore begins
        | cons first shorter =>
            have inside := (List.cons_prefix_cons.mp isBefore).2
            exact Nat.succ_le_succ (least shorter inside)

/-- The title of a text: what stands before its first dash, or the title of all texts without
one. -/
def IsTitle (text title : String) : Prop :=
  (title.toList ++ dash <+: text.toList ∧
    ∀ shorter, shorter ++ dash <+: text.toList → title.toList.length ≤ shorter.length) ∨
  ¬dash <:+: text.toList ∧ title = "Результат"

theorem isTitle_title (text : String) : IsTitle text (title text) := by
  unfold title
  cases found : beforeDash? text.toList with
  | none => exact Or.inr ⟨(beforeDash?_eq_none_iff _).mp found, rfl⟩
  | some head =>
      apply Or.inl
      rw [String.toList_ofList]
      exact beforeDash?_eq_some found

def isWhole (topic : RelatedTopic) : Bool :=
  topic.text.isSome && topic.address.isSome

def IsListedAs (topic : RelatedTopic) (hit : Hit) : Prop :=
  ∃ text address title, topic.text = some text ∧ topic.address = some address ∧
    IsTitle text title ∧ hit = ⟨some title, some text, some address⟩

theorem hit?_of_not_whole {topic : RelatedTopic} (part : topic.isWhole = false) :
    topic.hit? = none := by
  rw [hit?_eq_none_iff]
  rw [isWhole, Bool.and_eq_false_iff, Option.isSome_eq_false_iff, Option.isSome_eq_false_iff,
    Option.isNone_iff_eq_none, Option.isNone_iff_eq_none] at part
  exact part

theorem hit?_of_whole {topic : RelatedTopic} (whole : topic.isWhole = true) :
    ∃ hit, topic.hit? = some hit ∧ topic.IsListedAs hit := by
  obtain ⟨text, address⟩ := topic
  rw [isWhole, Bool.and_eq_true, Option.isSome_iff_exists, Option.isSome_iff_exists] at whole
  obtain ⟨⟨text, rfl⟩, address, rfl⟩ := whole
  exact ⟨_, rfl, text, address, title text, rfl, rfl, isTitle_title text, rfl⟩

theorem filterMap_hit? (topics : List RelatedTopic) :
    List.Forall₂ IsListedAs (topics.filter isWhole) (topics.filterMap hit?) := by
  induction topics with
  | nil => exact List.Forall₂.nil
  | cons topic topics ih =>
      cases whole : topic.isWhole with
      | false =>
          rw [List.filter_cons_of_neg (by rw [whole]; exact Bool.false_ne_true),
            List.filterMap_cons_none (hit?_of_not_whole whole)]
          exact ih
      | true =>
          obtain ⟨hit, found, listed⟩ := hit?_of_whole whole
          rw [List.filter_cons_of_pos whole, List.filterMap_cons_some found]
          exact List.Forall₂.cons listed ih

end RelatedTopic

def Hit.isWhole (hit : Hit) : Bool :=
  hit.title.isSome && hit.snippet.isSome && hit.url.isSome

theorem RelatedTopic.isWhole_of_isListedAs {topics : List RelatedTopic} {hits : List Hit}
    (listed : List.Forall₂ IsListedAs topics hits) : ∀ hit ∈ hits, hit.isWhole = true := by
  induction listed with
  | nil => exact List.forall_mem_nil _
  | cons head _ ih =>
      rw [List.forall_mem_cons]
      obtain ⟨text, address, title, _, _, _, rfl⟩ := head
      exact ⟨rfl, ih⟩

namespace InstantAnswer

/-- What an answer has to list: its summary, if that says anything, and then those of the first
five topics that have both a text and an address. -/
def Lists (answer : InstantAnswer) (listed : List Hit) : Prop :=
  ∃ related,
    listed = (if answer.summary.getD "" = "" then [] else
      [⟨some (answer.heading.getD "Информация"), answer.summary,
        some (answer.summaryAddress.getD "")⟩]) ++ related ∧
    List.Forall₂ RelatedTopic.IsListedAs
      ((answer.topics.take 5).filter RelatedTopic.isWhole) related

theorem toList_summaryHit? (answer : InstantAnswer) :
    answer.summaryHit?.toList = if answer.summary.getD "" = "" then [] else
      [⟨some (answer.heading.getD "Информация"), answer.summary,
        some (answer.summaryAddress.getD "")⟩] := by
  unfold summaryHit?
  cases answer.summary with
  | none => rfl
  | some text =>
      simp only [Option.getD_some, String.isEmpty_iff]
      split
      · rfl
      · rfl

theorem lists_hits (answer : InstantAnswer) : answer.Lists answer.hits := by
  refine ⟨_, ?_, RelatedTopic.filterMap_hit? _⟩
  rw [hits, toList_summaryHit?]
  rfl

theorem searchAnswer_eq (query : String) (answer : InstantAnswer) :
    answer.searchAnswer query =
      ⟨some (if answer.hits = [] then [noHit query] else answer.hits)⟩ := by
  simp only [searchAnswer, List.isEmpty_iff]

variable {answer : InstantAnswer} {listed : List Hit}

theorem Lists.length_le (lists : answer.Lists listed) : listed.length ≤ 6 := by
  obtain ⟨related, rfl, relates⟩ := lists
  have few : related.length ≤ 5 := by
    rw [← relates.length_eq]
    exact Nat.le_trans (List.length_filter_le _ _) (List.length_take_le 5 answer.topics)
  rw [List.length_append]
  split
  · rw [List.length_nil]
    omega
  · rw [List.length_singleton]
    omega

theorem Lists.isWhole (lists : answer.Lists listed) : ∀ hit ∈ listed, hit.isWhole = true := by
  obtain ⟨related, rfl, relates⟩ := lists
  rw [List.forall_mem_append]
  refine ⟨?_, RelatedTopic.isWhole_of_isListedAs relates⟩
  split
  · exact List.forall_mem_nil _
  · rename_i said
    cases summary : answer.summary with
    | none => exact absurd (by rw [summary]; rfl) said
    | some text => exact List.forall_mem_singleton.mpr rfl

theorem ofSearchAnswer_of_listed (query : String) {first : Hit} {more : List Hit}
    {snippet : String} (hits : answer.hits = first :: more) (quoted : first.snippet = some snippet)
    (said : snippet ≠ "") (meant : snippet ≠ Reply.placeholderSnippet) :
    Reply.ofSearchAnswer query (answer.searchAnswer query) =
      Reply.found query snippet answer.hits := by
  have usable := Reply.usableSnippet?_of_said quoted said meant
  rw [searchAnswer_of_hits query hits, hits]
  exact Reply.ofSearchAnswer_of_usable query more usable

/-- The search lists the summary and the topics of an answer, or else the hit that stands for no
hit, alone. If the first text on the list says anything, it is quoted, and the links are those of the
listed hits that lead anywhere. -/
theorem searchAnswer_lists (query : String) (answer : InstantAnswer) :
    let found := answer.searchAnswer query
    let reply := Reply.ofSearchAnswer query found
    ∃ listed, answer.Lists listed ∧
      found.hits = some (if listed = [] then [noHit query] else listed) ∧
      (∀ hits, found.hits = some hits → 1 ≤ hits.length ∧ hits.length ≤ 6 ∧
        ∀ hit ∈ hits, hit.title.isSome ∧ hit.snippet.isSome ∧ hit.url.isSome) ∧
      ∀ first more snippet, listed = first :: more → first.snippet = some snippet →
        snippet ≠ "" → snippet ≠ Reply.placeholderSnippet →
          reply.content = "По вашему запросу \"" ++ query ++
            "\" я нашёл следующую информацию:\n\n" ++ snippet ∧
          reply.links =
            let links := ((listed.filter fun hit => hit.url.getD "" ≠ "").map fun hit =>
              (⟨hit.title.getD "", hit.snippet.getD "", hit.url.getD ""⟩ : SourceLink))
            if links = [] then none else some links := by
  intro found reply
  have lists := answer.lists_hits
  have foundHits : found.hits = some (if answer.hits = [] then [noHit query] else answer.hits) :=
    congrArg SearchAnswer.hits (searchAnswer_eq query answer)
  refine ⟨answer.hits, lists, foundHits, ?_, ?_⟩
  · intro hits same
    rw [foundHits, Option.some.injEq] at same
    subst same
    split
    · exact ⟨Nat.le_refl 1, Nat.le_add_left 1 5, List.forall_mem_singleton.mpr ⟨rfl, rfl, rfl⟩⟩
    · rename_i some
      refine ⟨List.length_pos_iff.mpr some, lists.length_le, ?_⟩
      intro hit member
      have whole := lists.isWhole hit member
      rw [Hit.isWhole, Bool.and_eq_true, Bool.and_eq_true, and_assoc] at whole
      exact whole
  · intro first more snippet hits quoted said meant
    have told : reply = Reply.found query snippet answer.hits :=
      ofSearchAnswer_of_listed query hits quoted said meant
    rw [told]
    refine ⟨rfl, ?_⟩
    unfold Reply.found
    simp only [Reply.linksOf_eq_sources, List.isEmpty_iff]
    rfl

/-- A topic without an address is left out; one with an empty address is quoted and not linked. -/
theorem searchAnswer_lists_unlinked :
    let answer : InstantAnswer :=
      { summary := some ""
        topics := [⟨some "Cargo", none⟩, ⟨some "Rust - a - language", some ""⟩,
          ⟨some "Ferris", some "https://ferris"⟩] }
    let reply := Reply.ofSearchAnswer "rust" (answer.searchAnswer "rust")
    reply.content = "По вашему запросу \"" ++ "rust" ++
      "\" я нашёл следующую информацию:\n\n" ++ "Rust - a - language" ∧
    reply.links = some [⟨"Результат", "Ferris", "https://ferris"⟩] := by
  intro answer reply
  obtain ⟨listed, _, found, _, told⟩ := searchAnswer_lists "rust" answer
  have hits : (answer.searchAnswer "rust").hits =
      some [⟨some "Rust", some "Rust - a - language", some ""⟩,
        ⟨some "Результат", some "Ferris", some "https://ferris"⟩] := by
    decide
  rw [hits, Option.some.injEq] at found
  have isListed : listed = [⟨some "Rust", some "Rust - a - language", some ""⟩,
      ⟨some "Результат", some "Ferris", some "https://ferris"⟩] := by
    split at found
    · exact absurd (congrArg List.length found) (by decide)
    · exact found.symm
  have quoted := told _ _ _ isListed rfl (by decide) (by decide)
  rw [isListed] at quoted
  exact quoted

end InstantAnswer

end ChatAssistant

import ChatAssistant.Environment.Assignment

/-!
Assignments that come with the program, for places that have no file of their own. All of them are
left to the user: as they stand, the lines are comments.
-/

namespace ChatAssistant.Environment

open Text

def comment (text : String) : String :=
  "# " ++ text

def defaultLines : List String :=
  [ comment "RotyChat AI bundled configuration.",
    comment "Values here are defaults; the real environment or a local .env overrides them.",
    "",
    comment "JSON endpoint for math expressions: POST \x7b\"expression\": \"...\"\x7d",
    comment "Unset to use the built-in solver.",
    comment "ROTYCHAT_MATH_ENDPOINT=https://example.invalid/functions/v1/math-solver",
    "",
    comment "JSON endpoint for web search: POST \x7b\"query\": \"...\"\x7d",
    comment "Unset to query DuckDuckGo Instant Answers directly.",
    comment "ROTYCHAT_SEARCH_ENDPOINT=https://example.invalid/functions/v1/web-search",
    "",
    comment "Per-request timeout in seconds. Unset or 0 waits indefinitely.",
    comment "ROTYCHAT_REQUEST_TIMEOUT_SECS=30",
    "",
    comment "Directory holding persisted preferences (isDarkMode.json).",
    comment "ROTYCHAT_DATA_DIR=" ]

/-- What a line of the defaults sets. There are no quotes here: the value goes to the end of the
line, and a line without an equals sign sets nothing. -/
def defaultAssignment? (line : List Char) : Option Assignment :=
  let text := trim line
  if text.isEmpty || text.head? = some '#' then none
  else
    match text.dropWhile (· ≠ '=') with
    | [] => none
    | _ :: value =>
        some ⟨String.ofList (trim (text.takeWhile (· ≠ '='))), (trim value).map .char⟩

def defaults : List Assignment :=
  defaultLines.filterMap fun line => defaultAssignment? line.toList

end ChatAssistant.Environment

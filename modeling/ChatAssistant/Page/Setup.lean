/-!
What a page is opened with: backends and preferences.
-/

namespace ChatAssistant.Page

/-- The backends of a page. Each is known by the number of its instance alone. -/
structure BackendPair where
  math : Nat
  search : Nat
  deriving DecidableEq, Repr

structure Setup where
  backends : BackendPair
  isDark : Bool
  storageDirectory : String
  deriving DecidableEq, Repr

def Setup.sharesBackends (left right : Setup) : Bool :=
  left.backends = right.backends

end ChatAssistant.Page

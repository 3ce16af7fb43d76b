/-!
# Failures

What can go wrong while a browser is driven, and while settings are read.  A reason has a kind and a text;
kinds form a hierarchy, so that a caller who is prepared for one kind is prepared for every kind below
it.  A failure is the reason that reaches the caller together with the reasons behind it, nearest first:
an operation that reports a failure in its own words keeps what it met as the cause.

The texts of some kinds end with a pointer to further reading.  The pointer is added when a reason is shown
(`Reason.message`), with the address of the guide supplied by whoever shows it.
-/

namespace BrowserControl

inductive Kind where
  -- Reported by a browser or by an operation on it.
  | webDriver
  | invalidSwitchTarget
  | noSuchFrame
  | noSuchWindow
  | noNewWindow
  | ambiguousNewWindows (count : Int)
  | sessionClosed
  | noSuchElement
  | noSelection
  | optionNotFound
  | notMultiple
  | noSuchAttribute
  | noSuchShadowRoot
  | detachedShadowRoot
  | staleElement
  | invalidElementState
  | elementNotVisible
  | elementNotInteractable
  | elementNotSelectable
  | unexpectedAlert
  | noAlert
  | invalidCookieDomain
  | unableToSetCookie
  | noSuchCookie
  | timeout
  | moveTargetOutOfBounds
  | unexpectedTagName
  | invalidSelector
  | inputMethodNotAvailable
  | inputMethodActivation
  | invalidArgument
  | script
  | screenshot
  | clickIntercepted
  | insecureCertificate
  | invalidCoordinates
  | invalidSessionId
  | sessionNotCreated
  | unknownMethod
  | noSuchDriver
  -- Found in the surroundings, in arguments or in settings.
  | invalidValue
  | malformedJson
  | malformedUtf8
  | noSuchMember
  | outOfRange
  | nestedTooDeep
  | unknownName
  | unsupported
  | runtime
  | system
  | noSuchFile
  | isDirectory
  deriving DecidableEq, Repr

namespace Kind

/-- The more general kinds that a kind belongs to, nearest first. -/
def ancestors : Kind → List Kind
  | webDriver | invalidValue | noSuchMember | outOfRange | unknownName | runtime | system => []
  | noSuchFrame | noSuchWindow => [invalidSwitchTarget, webDriver]
  | noNewWindow => [noSuchWindow, invalidSwitchTarget, webDriver]
  | noSelection | optionNotFound => [noSuchElement, webDriver]
  | elementNotVisible | elementNotInteractable | elementNotSelectable =>
    [invalidElementState, webDriver]
  | malformedJson | malformedUtf8 => [invalidValue]
  | nestedTooDeep | unsupported => [runtime]
  | noSuchFile | isDirectory => [system]
  | _ => [webDriver]

/-- Whether whoever is prepared for `general` is prepared for this kind. -/
def isA (kind general : Kind) : Bool :=
  kind = general || kind.ancestors.contains general

@[simp]
theorem isA_self (kind : Kind) : kind.isA kind = true := by
  simp [isA]

/-- The hierarchy lists, above a kind, every kind above that one. -/
theorem ancestors_subset (kind : Kind) :
    ∀ general ∈ kind.ancestors, general.ancestors ⊆ kind.ancestors := by
  cases kind <;> simp [ancestors]

/-- Being of a more general kind is transitive. -/
theorem isA_trans {kind middle general : Kind} (hbelow : kind.isA middle = true)
    (habove : middle.isA general = true) : kind.isA general = true := by
  have hsubset : middle ∈ kind.ancestors → middle.ancestors ⊆ kind.ancestors :=
    ancestors_subset kind middle
  simp only [isA, Bool.or_eq_true, decide_eq_true_eq, List.contains_iff_mem] at hbelow habove ⊢
  grind

def isWebDriver (kind : Kind) : Bool :=
  kind.isA webDriver

/-- Where in the guide the texts of this kind point to: a section of its main page, or a page below it. -/
def guideEntry : Kind → Option String
  | noSuchElement | noSelection | optionNotFound => some "#nosuchelementexception"
  | staleElement => some "#staleelementreferenceexception"
  | elementNotVisible => some "#elementnotvisibleexception"
  | elementNotInteractable => some "#elementnotinteractableexception"
  | invalidSelector => some "#invalidselectorexception"
  | clickIntercepted => some "#elementclickinterceptedexception"
  | invalidSessionId => some "#invalidsessionidexception"
  | sessionNotCreated => some "#sessionnotcreatedexception"
  | noSuchDriver => some "/driver_location"
  | _ => none

def standardText? : Kind → Option String
  | noNewWindow => some "Can't switch to a new window: no new windows detected"
  | ambiguousNewWindows count =>
    some ("Can't switch to a new window: " ++ toString count ++ " new windows have been opened")
  | _ => none

end Kind

structure Reason where
  kind : Kind
  text : Option String
  deriving DecidableEq, Repr

namespace Reason

/-- The reason of a kind, with a text of its own if one is given.  Where there is a standard text it stands
in for an empty one; only reasons that do not come from a browser have an empty text for none. -/
def given (kind : Kind) (text : Option String) : Reason :=
  match kind.standardText? with
  | some standard => ⟨kind, some (if text.getD "" = "" then standard else text.getD "")⟩
  | none => ⟨kind, if kind.isWebDriver then text else some (text.getD "")⟩

/-- What is shown of a reason: its text, with the pointer into the guide that its kind may call for. -/
def message (guide : String) (reason : Reason) : Option String :=
  match reason.kind.guideEntry with
  | none => reason.text
  | some entry =>
    some (reason.text.getD "None" ++ "; For documentation on this error, please visit: " ++ guide ++
      entry)

/-- A reason written out in full.  Where an alert was in the way, a line of its own comes first for the text of
the alert, which is not known. -/
def written (guide : String) (reason : Reason) : String :=
  (if reason.kind = .unexpectedAlert then "Alert Text: None\n" else "") ++
    "Message: " ++ (reason.message guide).getD "None" ++ "\n"

end Reason

/-- A reason that reaches the caller, and the reasons behind it, nearest first. -/
structure Failure where
  reason : Reason
  causes : List Reason
  deriving DecidableEq, Repr

namespace Failure

def of (kind : Kind) (text : String) : Failure :=
  ⟨⟨kind, some text⟩, []⟩

/-- A failure of which no cause is known, with the text that is given or standard for its kind. -/
def given (kind : Kind) (text : Option String := none) : Failure :=
  ⟨Reason.given kind text, []⟩

def kind (failure : Failure) : Kind :=
  failure.reason.kind

/-- The same failure reported as another one, which keeps it as its cause. -/
def reportedAs (failure : Failure) (kind : Kind) (text : String) : Failure :=
  ⟨⟨kind, some text⟩, failure.reason :: failure.causes⟩

@[simp]
theorem kind_of (kind : Kind) (text : String) : (of kind text).kind = kind :=
  rfl

/-- Reporting a failure as a kind makes it one of that kind. -/
@[simp]
theorem kind_reportedAs (failure : Failure) (kind : Kind) (text : String) :
    (failure.reportedAs kind text).kind = kind :=
  rfl

end Failure

end BrowserControl

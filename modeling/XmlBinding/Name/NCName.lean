import XmlBinding.Text.Ranges

/-!
Names without a colon (NCNames) and their pairing into prefixed names. The classes are those of the
fifth edition of XML 1.0, where almost every letter of every script may start a name.
-/

namespace XmlBinding

/-- Why a text is not a name. -/
inductive NameFault where
  | ncName (text : String)
  | qName (text : String)
  | other (message : String)

def NameFault.message : NameFault → String
  | .ncName text => s!"Invalid NCName: '{text}'"
  | .qName text => s!"Invalid QName: '{text}'"
  | .other message => message

namespace NCName

def startRanges : List (Nat × Nat) :=
  [(0x41, 0x5A), (0x5F, 0x5F), (0x61, 0x7A), (0xC0, 0xD6), (0xD8, 0xF6), (0xF8, 0x2FF),
    (0x370, 0x37D), (0x37F, 0x1FFF), (0x200C, 0x200D), (0x2070, 0x218F), (0x2C00, 0x2FEF),
    (0x3001, 0xD7FF), (0xF900, 0xFDCF), (0xFDF0, 0xFFFD), (0x10000, 0xEFFFF)]

/-- What a name may hold besides the characters that may start one. -/
def restRanges : List (Nat × Nat) :=
  [(0x2D, 0x2E), (0x30, 0x39), (0xB7, 0xB7), (0x300, 0x36F), (0x203F, 0x2040)]

def isStart (c : Char) : Bool :=
  Text.inRanges startRanges c

def isPart (c : Char) : Bool :=
  isStart c || Text.inRanges restRanges c

def accepts : List Char → Bool
  | [] => false
  | c :: rest => isStart c && rest.all isPart

end NCName

def isNCName (s : String) : Bool :=
  NCName.accepts s.toList

/-- The parts before and after the first colon; the first is absent where there is no colon. -/
def splitColon (s : String) : Option String × String :=
  match s.toList.dropWhile (· != ':') with
  | [] => (none, s)
  | _ :: rest => (some (String.ofList (s.toList.takeWhile (· != ':'))), String.ofList rest)

/-- A name, or two joined by one colon. -/
def isQNameText (s : String) : Bool :=
  match splitColon s with
  | (some before, after) => isNCName before && isNCName after
  | (none, whole) => isNCName whole

def checkNCName (s : String) : Except NameFault Unit :=
  if isNCName s then .ok () else .error (.ncName s)

def checkQNameText (s : String) : Except NameFault Unit :=
  if isQNameText s then .ok () else .error (.qName s)

theorem NCName.not_isPart_colon : isPart ':' = false := by
  decide

/-- A name has no colon, so joining two by a colon can be undone. -/
theorem not_mem_colon_of_isNCName {s : String} (h : isNCName s = true) : ':' ∉ s.toList := by
  unfold isNCName at h
  cases hs : s.toList with
  | nil => simp
  | cons c rest =>
      rw [hs, NCName.accepts, Bool.and_eq_true, List.all_eq_true] at h
      intro hmem
      rcases List.mem_cons.1 hmem with hc | hr
      · rw [← hc] at h
        exact absurd h.1 (by decide)
      · have := h.2 _ hr
        rw [NCName.not_isPart_colon] at this
        exact Bool.noConfusion this

end XmlBinding

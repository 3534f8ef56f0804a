import PlatformGate.Markup.Doctype

/-!
What stands outside of the root element: in front of it a document type among white space,
comments and instructions, behind it only these.
-/

namespace PlatformGate.Markup

def readProlog (source : Source) (stage : Stage) (definitions : Definitions) (text : List Char) :
    Except Failure (Definitions × List Char) :=
  if text.isEmpty then .error ⟨source.endFault, []⟩
  else
    match _ : readOuter source.encoding text with
    | .error stop => .error (stop.failure text)
    | .ok (token, rest) =>
      if token = .root ∧ stage.isOutside then .ok (definitions, text)
      else
        match stage.advance ⟨source.encoding, source.isExceeded rest⟩ definitions token with
        | .error failure =>
          .error (failure.within text (text.drop (text.length - rest.length - 1)))
        | .ok (next, definitions) =>
          let source := { source with
            ragged := source.ragged && !(rest.isEmpty && token.absorbsEnd) }
          readProlog source next definitions rest
termination_by text.length
decreasing_by exact readOuter_length ‹_›

def OuterToken.isSilent : OuterToken → Bool
  | space => true
  | comment => true
  | instruction => true
  | _ => false

def readEpilog (source : Source) (text : List Char) : Except Failure Unit :=
  if text.isEmpty then (if source.ragged then .error ⟨.unclosedToken, []⟩ else .ok ())
  else
    match _ : readOuter source.encoding text with
    | .error stop => .error (stop.failure text)
    | .ok (token, rest) =>
      if token.isSilent then readEpilog source rest else .error ⟨.junkAfterRoot, text⟩
termination_by text.length
decreasing_by exact readOuter_length ‹_›

end PlatformGate.Markup

import MailMarkup.Proofs.LineEnds
import MailMarkup.Proofs.Relocate

namespace MailMarkup

def Place.shift (k : Int) (place : Place) : Place := { place with number := place.number + k }

def Finding.shift (k : Int) (f : Finding) : Finding :=
  { f with
    lineNumber := f.lineNumber + k
    message :=
      if f.code = .unclosedTag then neverClosedMessage f.errorTag (f.lineNumber + k)
      else f.message }

theorem Finding.relocate_shift (k : Int) : Finding.relocate (Place.shift k) = Finding.shift k := rfl

theorem checkLines_shift (k : Int) (document : List Line) :
    checkLines (document.map (Line.shift k)) = (checkLines document).map (Finding.shift k) := by
  rw [← Finding.relocate_shift]
  apply checkLines_relocate
  apply taggedPlaces_relocate
  intro line _
  exact ⟨rfl, rfl⟩

end MailMarkup

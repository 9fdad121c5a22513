import Backbeat.Catalog.Beat

/-!
# Filters on the catalog

A filter asks for several things at once, and a beat matches when it has all of them.  A list
asks for any one of its entries and, when empty, for nothing.  Only beats whose audio has been
uploaded match.  Letter case never matters.
-/

namespace Backbeat

structure Filter where
  genres : List String := []
  moods : List String := []
  tags : List String := []
  note : Option Note := none
  bpm : Option UInt32 := none
deriving DecidableEq

namespace Filter

/-- How far a beat's tempo may be from the one asked for. -/
def tempoWindow : Nat := 15

def isEmpty (filter : Filter) : Bool :=
  filter.genres.isEmpty && filter.moods.isEmpty && filter.tags.isEmpty &&
    filter.note.isNone && filter.bpm.isNone

def anyOf (wanted present : List String) : Bool :=
  wanted.isEmpty || wanted.any fun entry => present.any (Text.sameCaseless · entry)

def noteFits (wanted present : Option Note) : Bool :=
  match wanted, present with
  | none, _ => true
  | some _, none => false
  | some want, some found => found.scale == want.scale && Text.sameCaseless found.name want.name

def tempoFits (wanted : Option UInt32) (present : UInt32) : Bool :=
  match wanted with
  | none => true
  | some tempo =>
    present.toNat ≤ tempo.toNat + tempoWindow && tempo.toNat ≤ present.toNat + tempoWindow

def accepts (filter : Filter) (beat : Beat) : Bool :=
  beat.fileUploaded && anyOf filter.genres beat.genres && anyOf filter.moods beat.moods &&
    anyOf filter.tags beat.tags && noteFits filter.note beat.note && tempoFits filter.bpm beat.bpm

end Filter

end Backbeat

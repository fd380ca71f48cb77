import ContainerEntry.Text.Utf8

/-!
# The language of a pattern

What a pattern without brackets says, apart from how it is matched: it is a list of tokens, and it
describes the names that can be cut into pieces, one for each token.  A backslash at the very end
stands for nothing, so such a pattern has no tokens and describes no name.

`quoted` writes a name as the pattern that describes this name only.
-/

namespace ContainerEntry.Glob

open Bytes

/-- An element of a pattern without brackets. -/
inductive Token where
  /-- One byte. -/
  | literal (byte : UInt8)
  /-- Any byte. -/
  | anyByte
  /-- Any bytes. -/
  | anyBytes
  deriving DecidableEq, Repr

/-- Whether a piece of a name is what a token stands for. -/
def Token.covers : Token → Bytes → Bool
  | .literal byte, piece => piece = [byte]
  | .anyByte, piece => piece.length = 1
  | .anyBytes, _ => true

/-- The tokens of a pattern without brackets. -/
def tokens? : Bytes → Option (List Token)
  | [] => some []
  | [backslash] => none
  | backslash :: byte :: rest => (tokens? rest).map (.literal byte :: ·)
  | question :: rest => (tokens? rest).map (.anyByte :: ·)
  | asterisk :: rest => (tokens? rest).map (.anyBytes :: ·)
  | byte :: rest => (tokens? rest).map (.literal byte :: ·)

/-- Whether a pattern holds an opening bracket that no backslash stands before. -/
def hasBracket : Bytes → Bool
  | [] => false
  | [backslash] => false
  | backslash :: _ :: rest => hasBracket rest
  | openBracket :: _ => true
  | _ :: rest => hasBracket rest

/-- That tokens describe a name: it can be cut into pieces, one for each token. -/
inductive Describes : List Token → Bytes → Prop where
  /-- No tokens describe the empty name. -/
  | nil : Describes [] []
  /-- A token describes a piece, and the tokens behind it what follows. -/
  | cons {token : Token} {tokens : List Token} {piece rest : Bytes}
      (covers : token.covers piece = true) (describes : Describes tokens rest) :
      Describes (token :: tokens) (piece ++ rest)

/-- The pattern that describes one name: it has a backslash before each of its characters. -/
def quoted (name : Bytes) : Bytes :=
  (Text.chunks name).flatMap fun character => backslash :: character.bytes

end ContainerEntry.Glob

import Dbmail.Imap.Session

/-!
Contract: from input text to an argument list.

Owns `imap4_tokenizer` (`imap4.c`) and `imap4_tokenizer_main`
(`dm_imapsession.c`): the split of the first line into tag, command and
arguments, quoted strings, parentheses, string literals over several reads,
and the continuation lines of AUTHENTICATE.

Does not own: where the text comes from, or what a complete command does.
-/

namespace Dbmail.Imap

open Dbmail.Lib Dbmail.Auth

def acceptedTagChars : Bytes :=
  lit ("abcdefghijklmnopqrstuvwxyzABCDEFGHIJKLMNOPQRSTUVWXYZ0123456789" ++
    "!@#$%^&-=_`~\\|'\" ;:,.<>/? ")

def checktag (text : Bytes) : Bool := text.all fun byte => acceptedTagChars.contains byte

/-- `strip_crlf`, which leaves the first byte alone. -/
def stripCrlf : Bytes → Bytes
  | [] => []
  | first :: rest => first :: rest.rdropWhile fun byte => byte = 13 || byte = 10

/-! ## Scanning a line -/

/-- The length of the word at the start of the text: up to a blank, a
parenthesis or a quote that no backslash precedes. -/
def wordLength : Option UInt8 → Bytes → Nat
  | _, [] => 0
  | before, char :: rest =>
    if (lit " []()").contains char then 0
    else if char = 34 ∧ before ≠ some 92 then 0
    else wordLength (some char) rest + 1

/-- A literal announcement `{n}` or `{n+}` that ends the line, given the text
after the brace: the size and whether the client waits for no answer. -/
def literalSize (rest : Bytes) : Option (Nat × Bool) :=
  let (octets, lastchar) := strtoul rest
  if lastchar = lit "\x7d" then some (octets, false)
  else if lastchar = lit "+\x7d" then some (octets, true)
  else none

/-- The parentheses still open after one more, innermost first. -/
def parenthesis (open_ : List UInt8) (char : UInt8) : Option (List UInt8) :=
  if char = 40 ∨ char = 91 then some (char :: open_)
  else match open_ with
    | top :: rest =>
      if (char = 41 ∧ top = 40) ∨ (char = 93 ∧ top = 91) then some rest else none
    | [] => none

inductive Scanned where
  | finished (args : List Bytes) (balanced : Bool)
  | unbalanced (args : List Bytes)
  | literal (args : List Bytes) (octets : Nat) (plus : Bool)

/-- The argument loop of `imap4_tokenizer_main`. `before` is the previous byte,
`quote` the text of an open quoted string. -/
def scan : Nat → Option UInt8 → Bytes → List Bytes → List UInt8 → Option Bytes → Scanned
  | 0, _, _, args, open_, _ => .finished args open_.isEmpty
  | _ + 1, _, [], args, open_, _ => .finished args open_.isEmpty
  | fuel + 1, before, char :: rest, args, open_, quote =>
    if maxArgs - 1 ≤ args.length then .finished args open_.isEmpty
    else if char = 34 ∧ before ≠ some 92 then
      match quote with
      | some text => scan fuel (some char) rest (args ++ [text]) open_ none
      | none => scan fuel (some char) rest args open_ (some [])
    else match quote with
      | some text => scan fuel (some char) rest args open_ (some (text ++ [char]))
      | none =>
        if (lit "()[]").contains char then
          match parenthesis open_ char with
          | some open_ => scan fuel (some char) rest (args ++ [[char]]) open_ none
          | none => .unbalanced args
        else if char = 32 then scan fuel (some char) rest args open_ none
        else match if char = 123 then literalSize rest else none with
          | some (octets, plus) => .literal args octets plus
          | none =>
            let word := (char :: rest).take (wordLength before (char :: rest))
            scan fuel word.getLast? ((char :: rest).drop word.length) (args ++ [word])
              open_ none

/-! ## `imap4_tokenizer_main` -/

/-- What the tokenizer takes from outside: base64, and the challenge a new
exchange object gets. -/
structure TokenEnv where
  base64Decode : Bytes → Bytes
  base64Encode : Bytes → Bytes
  challenge : Bytes

variable (conf : ServerConf) (env : TokenEnv) (session : Session)

/-- `self->args[self->args_idx++] = text`. -/
def Session.pushArg (text : Bytes) : Except Fault Session :=
  if session.argsIdx < maxArgs then
    .ok { session with
      args := session.args.take session.argsIdx ++ [text], argsIdx := session.argsIdx + 1 }
  else .error .outOfBounds

/-- `dbmail_imap_session_prompt`. -/
def Session.prompt (text : Bytes) : Session :=
  session.send [.continuation (env.base64Encode (text ++ lit "\r\n"))]

def Session.asksFor (name announced : String) : Bool :=
  session.argsIdx = 1 && session.preauthCapa.matches (lit announced) &&
    smatch (session.args.headD []) name

def Session.challenge (env : TokenEnv) (session : Session) : Session :=
  let exchange := cramGetChallenge env.challenge cramNew
  { session with auth := .live exchange.1 }.send [.continuation (env.base64Encode exchange.2)]

/-- The label `finalize`: ask for the credentials of a bare mechanism name, else
terminate the list. -/
def finalize : Except Fault (Session × ParserState) :=
  if session.asksFor "LOGIN" "AUTH=LOGIN" then
    .ok (session.prompt env (lit "username"), .pending)
  else if session.asksFor "PLAIN" "AUTH=PLAIN" then .ok (session.prompt env [], .pending)
  else if session.asksFor "CRAM-MD5" "AUTH=CRAM-MD5" then .ok (session.challenge env, .pending)
  else if session.argsIdx < maxArgs then
    .ok ({ session with args := session.args.take session.argsIdx, argsIdx := 0 }, .complete)
  else .error .outOfBounds

def literalChunk (buffer : Bytes) : Except Fault (Session × ParserState) :=
  if session.rbuffSize < buffer.length then .error .assertion
  else if maxArgs ≤ session.argsIdx then .error .outOfBounds
  else
    let text := (session.args[session.argsIdx]?).getD [] ++ buffer
    let left := session.rbuffSize - buffer.length
    .ok ({ session with
      args := session.args.take session.argsIdx ++ [text]
      rbuffSize := left
      argsIdx := if left = 0 then session.argsIdx + 1 else session.argsIdx }, .pending)

def scanLine (line : Bytes) : Except Fault (Session × ParserState) :=
  let filled (args : List Bytes) : Session :=
    { session with args := args, argsIdx := args.length }
  match scan (line.length + 1) none line (session.args.take session.argsIdx) [] none with
  | .unbalanced args => .ok (filled args, .error)
  | .finished args false => .ok (filled args, .error)
  | .finished args true => finalize env (filled args)
  | .literal args octets plus =>
    if 0 < conf.maxMessageSize ∧ conf.maxMessageSize < octets then
      .ok ({ filled args with commandState := .done }.send
        [.no (session.command ++ lit " failed: message size too large")], .pending)
    else
      .ok ({ filled args with rbuffSize := (session.rbuffSize + octets) % 2 ^ 64 }.send
        (if plus then [] else [.continuation (lit "OK")]), .pending)

def loginLine (line : Bytes) :
    Except Fault (Session × ParserState) := do
  let session ← session.pushArg (cstr (env.base64Decode line))
  if session.argsIdx = 3 then finalize env session
  else if session.argsIdx = 2 then return (session.prompt env (lit "password"), .pending)
  else scanLine conf env session line

/-- The continuation line of AUTHENTICATE PLAIN. The authentication name and the
password are read behind the first and the second NUL of the decoded text,
whether or not these are there. -/
def plainLine (line : Bytes) :
    Except Fault (Session × ParserState) := do
  match (env.base64Decode line).dropWhile (· ≠ 0) with
  | [] => throw .outOfBounds
  | _ :: afterAuthzid =>
    match afterAuthzid.dropWhile (· ≠ 0) with
    | [] => throw .outOfBounds
    | _ :: afterAuthcid =>
      let session ← session.pushArg (cstr afterAuthzid)
      let session ← session.pushArg (cstr afterAuthcid)
      finalize env session

/-- The continuation line of AUTHENTICATE CRAM-MD5: `Cram_decode`, and
`Cram_free` when that fails. -/
def cramLine (line : Bytes) : Except Fault (Session × ParserState) :=
  match session.auth with
  | .null => .error .nullPointer
  | .freed => .error .freed
  | .live cram =>
    match cramDecode env.base64Decode cram line with
    | none => .ok ({ session with auth := .freed }, .error)
    | some decoded =>
      finalize env { session with auth := .live decoded, argsIdx := session.argsIdx + 1 }

/-- `imap4_tokenizer_main` on a NUL-free buffer. -/
def tokenizerMain (buffer : Bytes) : Except Fault (Session × ParserState) :=
  if buffer = [] then finalize env session
  else if session.rbuffSize ≠ 0 then literalChunk session buffer
  else
    let line := gStrchomp buffer
    match session.args with
    | [] => scanLine conf env session line
    | first :: _ =>
      -- every further line of a command is read as one of an exchange
      if smatch line "*" then .ok (session, .error)
      else if smatch first "LOGIN" then loginLine conf env session line
      else if smatch first "PLAIN" then plainLine env session line
      else if smatch first "CRAM-MD5" ∧ session.argsIdx = 1 then cramLine env session line
      else scanLine conf env session line

/-! ## `imap4_tokenizer` -/

def Session.refuseLine (reply : Reply) : Session :=
  { session with errorCount := session.errorCount + 1, commandState := .done }.send [reply]

/-- Set `parser_state` from `imap4_tokenizer_main`. -/
def parseArgs (text : Bytes) :
    Except Fault (Session × ParserState) := do
  let parsed ← tokenizerMain conf env session text
  return ({ parsed.1 with parserState := parsed.2 }, parsed.2)

/-- A first line behind its tag, the command name in it, and the rest. -/
def commandText (buffer : Bytes) : Bytes := buffer.drop (stridx buffer 32 + 1)

def commandWord (buffer : Bytes) : Bytes :=
  stripCrlf (((commandText buffer).take (stridx (commandText buffer) 32)).take 16)

def argumentText (buffer : Bytes) : Bytes :=
  (commandText buffer).drop (stridx (commandText buffer) 32)

def tagWord (buffer : Bytes) : Bytes := (buffer.take (stridx buffer 32)).take 16

def firstLine (buffer : Bytes) : Except Fault (Session × ParserState) :=
  let session := { session with parserState := .pending }
  if stridx buffer 32 = buffer.length then
    .ok (session.refuseLine (if checktag buffer then .bad (lit "No command specified")
      else .untagged (lit "BAD Invalid tag specified")), .pending)
  else
    let session := { session with tag := tagWord buffer }
    if !checktag session.tag then
      .ok (session.refuseLine (.untagged (lit "BAD Invalid tag specified")), .pending)
    else parseArgs conf env { session with command := commandWord buffer } (argumentText buffer)

/-- `imap4_tokenizer`: the session and the value returned. -/
def tokenizer (input : Bytes) : Except Fault (Session × ParserState) :=
  let buffer := cstr input
  if buffer = [] then .ok (session, .pending)
  else if session.tag ≠ [] then parseArgs conf env session buffer
  else if buffer.head? = some 10 ∨ (lit "\r\n").isPrefixOf buffer then .ok (session, .pending)
  else firstLine conf env session buffer

end Dbmail.Imap

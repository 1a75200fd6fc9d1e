import TopicGateway.Command.Arguments

/-! Help. What the program prints when it is asked for help. -/

namespace TopicGateway.Command

structure Entry where
  term : String
  about : String

def entryLines (title : String) (entries : List Entry) : List String :=
  let width := entries.foldl (fun w e => max w e.term.length) 0
  "" :: (title ++ ":") :: entries.map fun e =>
    "  " ++ e.term ++ "".pushn ' ' (width - e.term.length + 2) ++ e.about

def helpOption : Entry := ⟨"-h, --help", "Print help"⟩

namespace Topic

def about : Topic → String
  | .program => "Backtest gateway operator CLI"
  | .config => "Print the effective configuration (password redacted)"
  | .topology => "Print the exchange/queue/binding plan"
  | .publish => "Publish one custom message and print its message id"
  | .help => "Print this message or the help of the given subcommand(s)"

def usage : Topic → String
  | .program => "bgw <COMMAND>"
  | .config => "bgw config"
  | .topology => "bgw topology [OPTIONS]"
  | .publish => "bgw publish [OPTIONS] --routing-key <ROUTING_KEY> --payload <PAYLOAD>"
  | .help => "bgw help [COMMAND]..."

/-- The lists below the usage. Options without a short form leave room for one. -/
def lists : Topic → List String
  | .program =>
    entryLines "Commands" [
      ⟨"config", about .config⟩,
      ⟨"topology", about .topology⟩,
      ⟨"publish", about .publish⟩,
      ⟨"help", about .help⟩] ++
    entryLines "Options" [helpOption]
  | .config => entryLines "Options" [helpOption]
  | .topology =>
    entryLines "Options" [
      ⟨"    --declare", "Also connect to the broker and declare it"⟩,
      helpOption]
  | .publish =>
    entryLines "Options" [
      ⟨"    --routing-key <ROUTING_KEY>",
        "Routing key on the topic exchange (e.g. backtest.rerun)"⟩,
      ⟨"    --payload <PAYLOAD>", "Payload JSON string, sent unchanged"⟩,
      ⟨"    --message-type <MESSAGE_TYPE>", "Envelope message_type (defaults to \"custom\")"⟩,
      ⟨"    --correlation-id <CORRELATION_ID>", "Correlation id (generated when omitted)"⟩,
      helpOption]
  | .help => entryLines "Arguments" [⟨"[COMMAND]...", "Print help for the subcommand(s)"⟩]

def helpLines (t : Topic) : List String :=
  [t.about, "", "Usage: " ++ t.usage] ++ t.lists

end Topic

end TopicGateway.Command

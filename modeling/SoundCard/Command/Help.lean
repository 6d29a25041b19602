/-!
# Help texts

What the program tells about its own use.
-/

set_option autoImplicit false

namespace SoundCard.Command

inductive Task where
  | play
  | record
  deriving DecidableEq, Repr

namespace Task

def all : List Task := [play, record]

def name : Task → String
  | play => "play"
  | record => "record"

end Task

def programName : String := "ac97_cli"

def generalHelp : String :=
  "\n".intercalate
    [ "Usage: ac97_cli [--trace-file <trace-file>] <command> [<args>]",
      "",
      "Streams WAV audio through an emulated Milkymist AC'97 controller",
      "",
      "Options:",
      "  --trace-file      enable generation of trace files",
      "  --help, help      display usage information",
      "",
      "Commands:",
      "  play              play a 48kHz stereo WAV file through the playback DMA",
      "                    channel",
      "  record            record a 48kHz stereo WAV file through the capture DMA",
      "                    channel",
      "" ]

def Task.help : Task → String
  | play =>
    "\n".intercalate
      [ "Usage: ac97_cli play -o <output> [--period <period>] [--max-ticks <max-ticks>] "
          ++ "[--load-state <load-state>] [--save-state <save-state>] [--] <input>",
        "",
        "play a 48kHz stereo WAV file through the playback DMA channel",
        "",
        "Positional Arguments:",
        "  input             input wav file",
        "",
        "Options:",
        "  -o, --output      wav file receiving what the audio backend played",
        "  --period          bytes consumed by the audio backend per tick",
        "  --max-ticks       give up after this many audio ticks",
        "  --load-state      resume from a device snapshot instead of starting a new",
        "                    transfer",
        "  --save-state      write a device snapshot when streaming stops",
        "  --help, help      display usage information",
        "" ]
  | record =>
    "\n".intercalate
      [ "Usage: ac97_cli record -o <output> [--period <period>] [--max-ticks <max-ticks>] "
          ++ "[--save-state <save-state>] [--] <input>",
        "",
        "record a 48kHz stereo WAV file through the capture DMA channel",
        "",
        "Positional Arguments:",
        "  input             wav file fed into the audio backend",
        "",
        "Options:",
        "  -o, --output      wav file receiving the captured guest memory",
        "  --period          bytes produced by the audio backend per tick",
        "  --max-ticks       give up after this many audio ticks",
        "  --save-state      write a device snapshot when streaming stops",
        "  --help, help      display usage information",
        "" ]

end SoundCard.Command

import MotionCast.Cli.Options

/-! What the program tells about itself: its usage and its version. -/

namespace MotionCast.Cli

/-- The name by which the program calls itself. -/
def programName : String := "sdgyrodsu"

/-- The line that tells the version. -/
def version : String := programName ++ " 0.1.0"

/-- An option and what it is for, in two columns. -/
def usageLine (option purpose : String) : String :=
  "  " ++ option ++ String.ofList (List.replicate (26 - option.length) ' ') ++ purpose

/-- The lines that tell how the program is used. -/
def usage : List String :=
  ["Steam Deck gyro DSU (Cemuhook) server", "", "Usage: " ++ programName ++ " [OPTIONS]", "",
    "Options:",
    usageLine "--device-file <PATH>" "Read the device from an event file",
    usageLine "--hidraw <PATH>" "Read the device from a raw device file",
    usageLine "--vid <HEX>" "Vendor of the device [default: 0x28de]",
    usageLine "--pid <HEX>" "Product number of the device [default: 0x1205]",
    usageLine "--usb-interface <N>" "Interface of the device [default: 2]",
    usageLine "--port <PORT>" "Port to listen on",
    usageLine "--interface <NAME>" "Listen on 'local' or 'all' addresses [default: all]",
    usageLine "--slot <0..3>" "Slot of the controller [default: 0]",
    usageLine "--scan-period-us <N>" "First scan period in microseconds",
    usageLine "--start-marker <HEX>" "First bytes of a report",
    usageLine "--log-level <LEVEL>" "Level of the log [default: info]",
    usageLine "--calibrate <SECONDS>" "Estimate the scale of the gyroscope",
    usageLine "--test-run [<SECONDS>]" "Take samples without serving them [default: 5]",
    usageLine "-h, --help" "Print help",
    usageLine "-V, --version" "Print version"]

/-- The line that tells that the command line is wrong. -/
def refusal : String := "error: invalid command line. For more information, try '--help'."

end MotionCast.Cli

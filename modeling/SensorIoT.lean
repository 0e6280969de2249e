import SensorIoT.Adc.Counts
import SensorIoT.Adc.Reads
import SensorIoT.Adc.Channels
import SensorIoT.Options
import SensorIoT.StaLta.MoveRegister
import SensorIoT.StaLta.Tally
import SensorIoT.StaLta.Idle
import SensorIoT.StaLta.Recent
import SensorIoT.StaLta.Resume
import SensorIoT.StaLta.Names
import SensorIoT.Stamps.Fresh
import SensorIoT.Stamps.Notices
import SensorIoT.Stamps.Clocked
import SensorIoT.StartTime
import SensorIoT.Sac.Fields
import SensorIoT.Sac.Samples
import SensorIoT.Recorder.Appending
import SensorIoT.Recorder.Sound
import SensorIoT.Recorder.Detecting
import SensorIoT.Recorder.Hours
import SensorIoT.Recorder.Extrema
import SensorIoT.Recorder.Mean
import SensorIoT.Recorder.Readback
import SensorIoT.Recorder.Messages
import SensorIoT.Recorder.Finished
import SensorIoT.Recorder.Uploads
import SensorIoT.Recorder.Archive
import SensorIoT.Recorder.Events
import SensorIoT.Program
import SensorIoT.Rtc.RoundTrip
import SensorIoT.Startup
import SensorIoT.Alerts
import SensorIoT.Gps.Fields
import SensorIoT.Gps.Altitude
import SensorIoT.Gps.Location
import SensorIoT.Gps.Frames
import SensorIoT.Gps.Pulses

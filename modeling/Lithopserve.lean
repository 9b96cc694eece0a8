import Lithopserve.ProfilingMetrics
import Lithopserve.ProfilingCollectors
import Lithopserve.ProfilingAggregator
import Lithopserve.ProfilingExporter
import Lithopserve.ProfilingLoop
import Lithopserve.ProfilingContext
import Lithopserve.ProfilingSession
import Lithopserve.PywrenLocalhostConfig
